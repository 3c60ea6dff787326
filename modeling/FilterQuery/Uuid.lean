import FilterQuery.Text.Hexadecimal

/-! # Universally unique identifiers

A `Uuid` is a word of 128 bits, written as 32 hexadecimal digits in five groups.  It is read in that
form, without the hyphens, in braces, or behind `urn:uuid:`, whose letters may be capitals. -/

namespace FilterQuery

/-- An identifier of 128 bits. -/
structure Uuid where
  bits : BitVec 128
deriving DecidableEq, Repr, Inhabited

namespace Uuid

/-- The identifier whose bits are all zero. -/
def zero : Uuid := ⟨0⟩

/-- Order of identifiers as unsigned numbers. -/
def compareBits (a b : Uuid) : Ordering := compare a.bits.toNat b.bits.toNat

/-- Reads 32 hexadecimal digits. -/
def readDigits? (cs : List Char) : Option Uuid :=
  if cs.length = 32 then
    (cs.mapM Text.hexValue?).map fun digits =>
      ⟨BitVec.ofNat 128 (digits.foldl (fun n digit => 16 * n + digit) 0)⟩
  else none

/-- Reads five groups of hexadecimal digits with hyphens between them. -/
def readHyphenated? (cs : List Char) : Option Uuid :=
  let groups := cs.splitOnP (· == '-')
  if groups.map List.length = [8, 4, 4, 4, 12] then readDigits? groups.flatten else none

/-- What marks an identifier as the name of a resource, in lower case. -/
def resourceMark : List Char := "urn:uuid:".toList

/-- Reads an identifier in one of its four forms. -/
def read? (cs : List Char) : Option Uuid :=
  if (cs.take resourceMark.length).map Char.toLower = resourceMark then
    readHyphenated? (cs.drop resourceMark.length)
  else
    match cs with
    | '{' :: rest => if rest.getLast? = some '}' then readHyphenated? rest.dropLast else none
    | _ => (readDigits? cs).or (readHyphenated? cs)

/-- The 32 hexadecimal digits, highest first. -/
def digits (u : Uuid) : List Char :=
  (List.range 32).map fun i => Nat.digitChar (u.bits.toNat / Nat.pow 16 (31 - i) % 16)

/-- The identifier in lower case with hyphens. -/
def print (u : Uuid) : List Char :=
  let ds := u.digits
  ds.take 8 ++ '-' :: (ds.drop 8).take 4 ++ '-' :: (ds.drop 12).take 4 ++
    '-' :: (ds.drop 16).take 4 ++ '-' :: ds.drop 20

end Uuid

end FilterQuery
