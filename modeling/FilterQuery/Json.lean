import FilterQuery.Number.Binary64

/-! # JSON values

A JSON value in which whole numbers are kept apart from numbers with a fraction or an exponent. -/

namespace FilterQuery

/-- A JSON value. -/
inductive Json where
  | null
  | bool (b : Bool)
  | string (s : String)
  | integer (n : Int)
  | double (x : Binary64)
  | array (items : List Json)
  | object (members : List (String × Json))
deriving BEq, Inhabited

namespace Json

/-- The truth value that a JSON value is. -/
def toBool? : Json → Option Bool
  | bool b => some b
  | _ => none

/-- The text that a JSON value is. -/
def toString? : Json → Option String
  | string s => some s
  | _ => none

/-- The whole number that a JSON value is, if it lies within bounds. -/
def toInt? (least greatest : Int) : Json → Option Int
  | integer n => if least ≤ n ∧ n ≤ greatest then some n else none
  | _ => none

/-- The settings of a JSON value, looked up by name or place: an object gives them by name and may
leave some out and have others, an array gives the first of them in order and has no others. -/
def settings? (names : List String) : Json → Option (List (Option Json))
  | object members => some (names.map fun name => members.lookup name)
  | array items =>
    if items.length ≤ names.length then
      some (items.map some ++ List.replicate (names.length - items.length) none)
    else none
  | _ => none

end Json

end FilterQuery
