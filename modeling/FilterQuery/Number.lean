import FilterQuery.Number.Decimal

/-! # Numbers

A `Number` is a signed or unsigned integer of 64 bits or a double.  Integers are compared exactly,
whatever their signedness; as soon as a double takes part, both sides are compared as doubles. -/

namespace FilterQuery

/-- A number of one of three machine types. -/
inductive Number where
  | signed (n : Int64)
  | unsigned (n : UInt64)
  | double (x : Binary64)
deriving DecidableEq

namespace Number

/-- The number as an exact integer, if it is of an integer type. -/
def toInt? : Number → Option Int
  | signed n => some n.toInt
  | unsigned n => some n.toNat
  | double _ => none

/-- The double nearest to the number. -/
def toDouble : Number → Binary64
  | signed n => .ofInt n.toInt
  | unsigned n => .ofInt n.toNat
  | double x => x

/-- Numerical order of two numbers; `none` only if one of them is not a number. -/
def compare? (a b : Number) : Option Ordering :=
  match a.toInt?, b.toInt? with
  | some m, some n => some (compare m n)
  | _, _ => a.toDouble.compare? b.toDouble

/-- Equality of two numbers of the same type; numbers of different types are never the same. -/
def same : Number → Number → Bool
  | signed m, signed n => m == n
  | unsigned m, unsigned n => m == n
  | double x, double y => x.same y
  | _, _ => false

/-- The text of a number. -/
def print : Number → List Char
  | signed n => printInt n.toInt
  | unsigned n => printNat n.toNat
  | double x => x.print

/-- The signed integer of 64 bits, if it is in range. -/
def ofSigned? (n : Int) : Option Number :=
  if Int64.minValue.toInt ≤ n ∧ n ≤ Int64.maxValue.toInt then some (signed (Int64.ofInt n))
  else none

/-- The unsigned integer of 64 bits, if it is in range. -/
def ofUnsigned? (n : Int) : Option Number :=
  if 0 ≤ n ∧ n < UInt64.size then some (unsigned (UInt64.ofNat n.toNat)) else none

/-- Reads a number: a whole number in the range of signed integers, else in the range of unsigned
ones, else anything in floating-point notation. -/
def read? (cs : List Char) : Option Number :=
  match (readInteger cs).bind ofSigned? with
  | some n => some n
  | none =>
    match (readInteger cs).bind ofUnsigned? with
    | some n => some n
    | none => (readDouble cs).map double

/-- Integers of 64 bits, with a sign or without, are read as such. -/
theorem exists_read? {cs : List Char} {n : Int} (h : readInteger cs = some n)
    (hlow : Int64.minValue.toInt ≤ n) (hhigh : n < UInt64.size) :
    ∃ number, read? cs = some number ∧ number.toInt? = some n := by
  unfold read?
  rw [h, Option.bind_some, Option.bind_some]
  by_cases hsigned : n ≤ Int64.maxValue.toInt
  · rw [ofSigned?, if_pos ⟨hlow, hsigned⟩]
    refine ⟨_, rfl, congrArg some (Int64.toInt_ofInt_of_le ?_ ?_)⟩
    · rwa [Int64.toInt_minValue] at hlow
    · rw [Int64.toInt_maxValue] at hsigned
      omega
  · have hrange : 0 ≤ n ∧ n < UInt64.size := by
      rw [Int64.toInt_maxValue] at hsigned
      omega
    rw [ofSigned?, if_neg fun hfits => hsigned hfits.2, ofUnsigned?, if_pos hrange]
    refine ⟨_, rfl, congrArg some ?_⟩
    rw [UInt64.toNat_ofNat']
    unfold UInt64.size at hhigh
    omega

theorem toDouble_of_toInt? {a : Number} {n : Int} (h : a.toInt? = some n) :
    a.toDouble = .ofInt n := by
  cases a <;> cases h <;> rfl

theorem compare?_of_toInt? {a b : Number} {m n : Int} (ha : a.toInt? = some m)
    (hb : b.toInt? = some n) : a.compare? b = some (compare m n) := by
  -- Both are integers, so the doubles are never asked for.
  simp [compare?, ha, hb]

end Number

end FilterQuery
