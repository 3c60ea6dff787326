import FilterQuery.Calendar.Timestamp
import FilterQuery.Number
import FilterQuery.Uuid

/-! # Values

A `Value` is what a field of an item holds, and also what a literal in a filter stands for.  Its text
is what operators on text see. -/

namespace FilterQuery

/-- Declared kind of a field. -/
inductive FieldKind where
  | string
  | number
  | bool
  | timestamp
  | uuid
deriving DecidableEq, Repr, Inhabited

/-- The kind in words. -/
def FieldKind.name : FieldKind → String
  | string => "string"
  | number => "number"
  | bool => "bool"
  | timestamp => "timestamp"
  | uuid => "uuid"

/-- A value of a field or of a literal. -/
inductive Value where
  | string (s : String)
  | number (n : Number)
  | bool (b : Bool)
  | timestamp (t : Timestamp)
  | uuid (u : Uuid)
  /-- The field is not set. -/
  | absent
deriving DecidableEq

namespace Value

instance : Inhabited Value := ⟨absent⟩

/-- Whether the value is missing. -/
def isAbsent : Value → Bool
  | absent => true
  | _ => false

/-- The kind of a value that is set. -/
def kind? : Value → Option FieldKind
  | string _ => some .string
  | number _ => some .number
  | bool _ => some .bool
  | timestamp _ => some .timestamp
  | uuid _ => some .uuid
  | absent => none

/-- The zero value of a kind. -/
def zero : FieldKind → Value
  | .string => string ""
  | .number => number (.signed 0)
  | .bool => bool false
  | .timestamp => timestamp ⟨0⟩
  | .uuid => uuid .zero

/-- The text of a value, as characters; a missing value has none. -/
def print? : Value → Option (List Char)
  | string s => some s.toList
  | number n => some n.print
  | bool b => some (if b then "true".toList else "false".toList)
  | timestamp t => some t.print
  | uuid u => some u.print
  | absent => none

/-- The text of a value; a missing value has none. -/
def text? (v : Value) : Option String := v.print?.map String.ofList

/-- Equality of values.  Numbers are equal only within one machine type, and there numerically. -/
def same : Value → Value → Bool
  | number m, number n => m.same n
  | a, b => a == b

theorem print?_eq_none_iff {v : Value} : v.print? = none ↔ v = absent := by
  cases v <;> simp [print?]

end Value

end FilterQuery
