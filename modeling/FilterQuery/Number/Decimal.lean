import FilterQuery.Number.Binary64

/-! # Numbers in decimal notation

`readInteger` reads whole numbers and `readDouble` numbers with a fraction and an exponent; a
decimal number becomes the double nearest to its exact value.  `Binary64.print` writes a double with
the fewest digits that are read back as the same double, never with an exponent. -/

namespace FilterQuery

/-! ## Reading -/

/-- The value of a text of decimal digits; `none` unless it has a digit and nothing else. -/
def readDigits (cs : List Char) : Option Nat :=
  if cs ≠ [] ∧ cs.all Char.isDigit then some (Nat.ofDigitChars 10 cs 0) else none

/-- A sign at the front of a text, if there is one, and the rest; `true` is the minus sign. -/
def takeSign : List Char → Option Bool × List Char
  | '-' :: rest => (some true, rest)
  | '+' :: rest => (some false, rest)
  | cs => (none, cs)

/-- A whole number: digits with an optional sign in front. -/
def readInteger (cs : List Char) : Option Int :=
  match takeSign cs with
  | (some true, rest) => (readDigits rest).map fun n => -(n : Int)
  | (_, rest) => (readDigits rest).map fun n => (n : Int)

/-- A number in decimal notation: `coefficient * 10 ^ exponent`, with a sign. -/
structure Decimal where
  negative : Bool
  coefficient : Nat
  exponent : Int
deriving DecidableEq, Repr

namespace Decimal

/-- The double or single nearest to the number, by way of fractions.  Exponents far outside the
range of either precision are answered at once. -/
def nearest (ofFraction : Bool → Nat → Nat → Binary64) (d : Decimal) : Binary64 :=
  let magnitude := d.exponent + (Nat.toDigits 10 d.coefficient).length
  if d.coefficient = 0 then ofFraction d.negative 0 1
  else if 400 < magnitude then .infinite d.negative
  else if magnitude < -400 then ofFraction d.negative 0 1
  else ofFraction d.negative (d.coefficient * Nat.pow 10 d.exponent.toNat)
    (Nat.pow 10 (-d.exponent).toNat)

end Decimal

/-- The exponent behind a coefficient: nothing, or the letter `e` and a whole number. -/
def readExponent : List Char → Option Int
  | [] => some 0
  | c :: rest => if c == 'e' || c == 'E' then readInteger rest else none

/-- A decimal number without sign: digits with an optional point among them or at either end, then
an optional exponent. -/
def readDecimal (negative : Bool) (cs : List Char) : Option Decimal :=
  let whole := cs.takeWhile Char.isDigit
  let rest := cs.dropWhile Char.isDigit
  let (fraction, rest) := match rest with
    | '.' :: rest => (rest.takeWhile Char.isDigit, rest.dropWhile Char.isDigit)
    | rest => ([], rest)
  match readDigits (whole ++ fraction), readExponent rest with
  | some coefficient, some exponent => some ⟨negative, coefficient, exponent - fraction.length⟩
  | _, _ => none

/-- A number in floating-point notation, in a given precision: a decimal number, or one of the words
`inf`, `infinity` and `nan` in any case, with an optional sign. -/
def readFloating (ofFraction : Bool → Nat → Nat → Binary64) (cs : List Char) : Option Binary64 :=
  let (sign, rest) := takeSign cs
  let negative := sign.getD false
  match readDecimal negative rest with
  | some d => some (d.nearest ofFraction)
  | none =>
    let word := rest.map Char.toLower
    if word = "inf".toList ∨ word = "infinity".toList then some (.infinite negative)
    else if word = "nan".toList then some .nan
    else none

/-- The double nearest to a number in floating-point notation. -/
def readDouble (cs : List Char) : Option Binary64 := readFloating Binary64.ofFraction cs

/-- The single-precision number nearest to a number in floating-point notation, as a double. -/
def readSingle (cs : List Char) : Option Binary64 := readFloating Binary64.ofFractionSingle cs

/-! ## Writing -/

/-- The decimal digits of a natural number. -/
def printNat (n : Nat) : List Char := Nat.toDigits 10 n

/-- The decimal digits of an integer, with a minus sign if it is negative. -/
def printInt (n : Int) : List Char := if n < 0 then '-' :: printNat n.natAbs else printNat n.natAbs

/-- The number `coefficient * 10 ^ exponent` without exponent and without superfluous zeros. -/
def printPositional (coefficient : Nat) (exponent : Int) : List Char :=
  let digits := printNat coefficient
  let zeros := (digits.reverse.takeWhile (· == '0')).length
  let digits := digits.take (digits.length - zeros)
  let exponent := exponent + zeros
  if 0 ≤ exponent then digits ++ List.replicate exponent.toNat '0'
  else
    let places := (-exponent).toNat
    if places < digits.length then
      digits.take (digits.length - places) ++ '.' :: digits.drop (digits.length - places)
    else '0' :: '.' :: List.replicate (places - digits.length) '0' ++ digits

/-- The decimal number with the fewest digits, as coefficient and exponent, that is nearer to
`units * 2 ^ -1074` than to any other double.  Every double is a whole number of `10 ^ -1074`; on the
grid of each number of digits the two neighbours of that whole number are tried.  Of two that serve
the nearer is taken, and the larger if they are equally near. -/
def shortestDigits (units : Nat) : Nat × Int :=
  let shift := shiftFor 53 units
  -- All quantities are counted in quarters of `10 ^ -1074`.
  let exact := 4 * units * Nat.pow 5 1074
  let half := 2 * Nat.pow 2 shift * Nat.pow 5 1074
  -- Below a power of two the doubles lie twice as close.
  let below := if units = Nat.pow 2 (52 + shift) ∧ 0 < shift then half / 2 else half
  -- The ends of the interval are read back as the double only if its significand is even.
  let even := units / Nat.pow 2 shift % 2 == 0
  let reaches := fun distance bound => distance < bound || even && distance == bound
  let length := (printNat (units * Nat.pow 5 1074)).length
  let onGrid := fun digits =>
    let step := Nat.pow 10 (length - digits)
    let low := units * Nat.pow 5 1074 / step
    let toLow := exact - 4 * low * step
    let toHigh := 4 * (low + 1) * step - exact
    let exponent : Int := (length - digits : Nat) - 1074
    match reaches toLow below, reaches toHigh half with
    | true, true => some (if toLow < toHigh then low else low + 1, exponent)
    | true, false => some (low, exponent)
    | false, true => some (low + 1, exponent)
    | false, false => none
  ((List.range 17).findSome? fun i => onGrid (i + 1)).getD (units * Nat.pow 5 1074, -1074)

/-- The text of a double: the fewest digits that are read back as the same double, without
exponent. -/
def Binary64.print : Binary64 → List Char
  | .nan => "NaN".toList
  | .infinite negative => if negative then "-inf".toList else "inf".toList
  | .finite negative units _ =>
    let digits :=
      if units = 0 then ['0']
      else printPositional (shortestDigits units).1 (shortestDigits units).2
    if negative then '-' :: digits else digits

end FilterQuery
