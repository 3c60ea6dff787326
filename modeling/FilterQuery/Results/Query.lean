import FilterQuery.Compile.Predicate
import FilterQuery.Results.Sorting

/-! # Queries

A `Query` puts together a filter, an order and a page.  Its result is the number of items that
satisfy the filter and one page of them in order. -/

namespace FilterQuery

/-- A request for one page of the items that satisfy a filter, in some order. -/
structure Query where
  filter : Option String := none
  orderBy : Option String := none
  /-- Number of items left out at the beginning. -/
  skip : Option Nat := none
  /-- Greatest number of items in the page. -/
  take : Option Nat := none
deriving DecidableEq, Repr

/-- One page of a result. -/
structure Page (ι : Type) where
  /-- Number of items that satisfy the filter, on all pages. -/
  count : Nat
  items : List ι

namespace Query

/-- The greatest number of items that can be skipped or taken. -/
def maxCount : Nat := UInt64.size - 1

/-- The query for a page of the given size, where the first page has the number 1; the number 0
means the first page as well. -/
def page (query : Query) (number size : Nat) : Query :=
  { query with skip := some (min ((number - 1) * size) maxCount), take := some size }

/-- Whether a text is missing or blank. -/
def isBlank (text : Option String) : Bool := (text.getD "").toList.all Text.isBlank

/-- Whether the query asks for all items as they are. -/
def isEmpty (query : Query) : Bool :=
  isBlank query.filter && isBlank query.orderBy && query.skip.isNone && query.take.isNone

/-- A setting that may be left out or null, but not be of another type. -/
def setting? (read : Json → Option α) : Option Json → Option (Option α)
  | none | some .null => some none
  | some value => (read value).map some

/-- The query in a JSON value.  Members that are no settings do not matter. -/
def ofJson? (json : Json) : Option Query := do
  match ← json.settings? ["filter", "order_by", "skip", "take"] with
  | [filter, orderBy, skip, take] =>
    let count := fun json => (Json.toInt? 0 maxCount json).map Int.toNat
    some {
      filter := ← setting? Json.toString? filter
      orderBy := ← setting? Json.toString? orderBy
      skip := ← setting? count skip
      take := ← setting? count take }
  | _ => none

/-- The page of the items that the query asks for. -/
def run {ι : Type} (query : Query) (m : Mapper ι) (items : List ι) :
    Except FilterError (Page ι) := do
  let filter ← ({ mapper := m } : Compiler ι).compile (query.filter.getD "")
  let keys ← match SortKey.readAll (query.orderBy.getD "") with
    | .ok keys => pure keys
    | .error (problem, position) => throw (.invalidOrder problem position)
  let found := filter.apply items
  let sorted ← if keys.isEmpty then pure found else m.sort found keys
  -- The number of items found does not hang on the page.
  let rest := sorted.drop (query.skip.getD 0)
  return ⟨found.length, match query.take with | some n => rest.take n | none => rest⟩

end Query

end FilterQuery
