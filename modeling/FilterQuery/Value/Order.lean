import FilterQuery.Text.Case
import FilterQuery.Value

/-! # Order of values

Values of one kind are ordered: texts by code points, numbers numerically, `false` before `true`,
moments in time, identifiers by their bits.  Values of different kinds are not comparable. -/

namespace FilterQuery

/-- Order of texts by their code points. -/
def compareTexts (a b : List Char) : Ordering := compare a b

/-- Order of texts after each character has been put into lower case. -/
def compareTextsIgnoringCase (a b : List Char) : Ordering :=
  compareTexts (Text.lowerEach a) (Text.lowerEach b)

namespace Value

/-- Order of two values of the same kind; `none` for missing values, for different kinds, and for
what is not a number. -/
def compareSet? (ignoreCase : Bool) : Value → Value → Option Ordering
  | string a, string b =>
    some (if ignoreCase then compareTextsIgnoringCase a.toList b.toList
      else compareTexts a.toList b.toList)
  | number m, number n => m.compare? n
  | bool a, bool b => some (compare a b)
  | timestamp t, timestamp u => some (t.compareTime u)
  | uuid u, uuid v => some (u.compareBits v)
  | _, _ => none

/-- Order of two values in which missing values come last. -/
def compare? : Value → Value → Option Ordering
  | absent, absent => some .eq
  | absent, _ => some .gt
  | _, absent => some .lt
  | a, b => a.compareSet? false b

end Value

end FilterQuery
