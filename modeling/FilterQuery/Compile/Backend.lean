import FilterQuery.Access.Accessor
import FilterQuery.FilterError
import FilterQuery.Matching.Test

/-! # Backends

A filter is compiled into queries of some type `Q`.  A `Backend ι Q` says how queries on single
fields are made and how queries are put together. -/

namespace FilterQuery

/-- The field that a test is made on. -/
structure Target (ι : Type) where
  /-- The name of the field as it is written in the filter. -/
  name : String
  /-- The path of the accessor, or the name where it has none. -/
  path : String
  kind : FieldKind
  nullable : Bool
  /-- The key of an index behind the name. -/
  index : Option String
  /-- The value of the field in an item or in an element of the innermost collection. -/
  read : ι → Value

/-- A collection, any element of which may satisfy a condition. -/
structure Collection (ι : Type) where
  path : String
  /-- The elements in an item, or nothing where the collection is absent. -/
  elements : ι → Option (List ι)

/-- How queries are made. -/
structure Backend (ι Q : Type) where
  /-- The name of the backend in error messages. -/
  name : String
  and : Q → Q → Q
  or : Q → Q → Q
  always : Q
  never : Q
  /-- The query for a test of one field. -/
  leaf : Target ι → Test → Except FilterError Q
  /-- The query that any element of a collection satisfies the inner one.  The flag tells that items
  without the collection are to be passed over. -/
  any : Collection ι → Q → Bool → Except FilterError Q
  /-- Whether two conditions on elements of collections, joined inside parentheses, are to hold of
  the same element. -/
  merges : Collection ι → Collection ι → Conjunction → Bool :=
    fun left right _ => left.path == right.path

/-- Joins two queries. -/
def Backend.join {ι Q : Type} (backend : Backend ι Q) : Conjunction → Q → Q → Q
  | .and => backend.and
  | .or => backend.or

/-- A query, and whether it looks into a collection. -/
structure Built (Q : Type) where
  query : Q
  nested : Bool

end FilterQuery
