import FilterQuery.Filter.Token.Scan
import FilterQuery.Value.Order

/-! # Order of results

The order of results is written as a list of items with commas between them:

    item := name ('?' | '!')? ('asc' | 'desc')?

A name alone sorts by the value of the field, with `?` by whether it is set, and with `!` by whether
it is not set. -/

namespace FilterQuery

/-- Direction of sorting. -/
inductive Direction where
  | ascending
  | descending
deriving DecidableEq, Repr, Inhabited

namespace Direction

/-- The direction as it is written. -/
def symbol : Direction → String
  | ascending => "asc"
  | descending => "desc"

/-- An order in this direction. -/
def apply : Direction → Ordering → Ordering
  | ascending, o => o
  | descending, o => o.swap

/-- The direction with the given name, in any case. -/
def read? (word : List Char) : Option Direction :=
  let word := word.map Char.toLower
  if word = "asc".toList then some ascending
  else if word = "desc".toList then some descending
  else none

end Direction

/-- What is compared of a field. -/
inductive SortBasis where
  | value
  /-- Whether the field is set; items without it come first. -/
  | isSet
  /-- Whether the field is not set; items with it come first. -/
  | isNotSet
deriving DecidableEq, Repr, Inhabited

/-- One item of an order. -/
structure SortKey where
  member : String
  direction : Direction := .ascending
  basis : SortBasis := .value
deriving DecidableEq, Repr

/-- What can be wrong with the text of an order, or with its use. -/
inductive SortProblem where
  | emptyItem
  | badName (word : String)
  | badDirection (word : String)
  | extraWord (word : String)
  /-- The field is not read directly from an item. -/
  | notSortable (field : String)
deriving DecidableEq, Repr

/-- The problem in words. -/
def SortProblem.message : SortProblem → String
  | emptyItem => "empty ordering item"
  | badName word => s!"invalid field name '{word}'"
  | badDirection word => s!"expected 'asc' or 'desc', found '{word}'"
  | extraWord word => s!"unexpected '{word}' after direction"
  | notSortable field => s!"field '{field}' cannot be used for ordering"

namespace SortKey

/-- The item as it is written. -/
def text (key : SortKey) : String :=
  key.member ++ (match key.basis with | .value => "" | .isSet => "?" | .isNotSet => "!") ++ " " ++
    key.direction.symbol

/-- Takes the mark off a name. -/
def splitMark (word : List Char) : List Char × SortBasis :=
  match word.getLast? with
  | some '?' => (word.dropLast, .isSet)
  | some '!' => (word.dropLast, .isNotSet)
  | _ => (word, .value)

/-- Reads one item. -/
def readItem (item : List Char) : Except SortProblem SortKey :=
  match Text.words item with
  | [] => .error .emptyItem
  | word :: words =>
    let (member, basis) := splitMark word
    if member.isEmpty || !member.all isFieldChar then .error (.badName (String.ofList word))
    else
      match words with
      | [] => .ok ⟨String.ofList member, .ascending, basis⟩
      | name :: extra =>
        match Direction.read? name with
        | none => .error (.badDirection (String.ofList name))
        | some direction =>
          match extra with
          | [] => .ok ⟨String.ofList member, direction, basis⟩
          | word :: _ => .error (.extraWord (String.ofList word))

/-- Reads the items of an order, the first of them at the given place in the text.  A problem is
reported at the first character of its item that is not white space. -/
def readItems (position : Nat) : List (List Char) → Except (SortProblem × Nat) (List SortKey)
  | [] => .ok []
  | item :: items =>
    match readItem item with
    | .error problem => .error (problem, position + (item.takeWhile Text.isBlank).length)
    | .ok key => (readItems (position + item.length + 1) items).map (key :: ·)

/-- Reads an order.  A blank text is the order without items. -/
def readAll (text : String) : Except (SortProblem × Nat) (List SortKey) :=
  if text.toList.all Text.isBlank then .ok []
  else readItems 0 (text.toList.splitOnP (· == ','))

/-- Order of two values of the field.  Missing values come last in both directions. -/
def compareValues? (direction : Direction) (a b : Value) : Option Ordering :=
  if a.isAbsent || b.isAbsent then a.compare? b else (a.compare? b).map direction.apply

/-- Order of two items by the values that their field has. -/
def compare (key : SortKey) (a b : Value) : Ordering :=
  match key.basis with
  | .value => (compareValues? key.direction a b).getD .eq
  | .isSet => key.direction.apply (Ord.compare (!a.isAbsent) (!b.isAbsent))
  | .isNotSet => key.direction.apply (Ord.compare (!b.isAbsent) (!a.isAbsent))

end SortKey

end FilterQuery
