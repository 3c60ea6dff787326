import FilterQuery.Compile.Compiler

/-! # Predicates

The backend whose queries are predicates on items, and filters on lists of items. -/

namespace FilterQuery

/-- Compiles filters into predicates. -/
def predicateBackend (ι : Type) : Backend ι (ι → Bool) where
  name := "predicate"
  and := fun left right item => left item && right item
  or := fun left right item => left item || right item
  always := fun _ => true
  never := fun _ => false
  leaf := fun target test => .ok fun item => test.accepts (target.read item)
  any := fun collection inner _ => .ok fun item => ((collection.elements item).getD []).any inner

namespace Built

variable {ι : Type}

/-- Whether an item satisfies the filter. -/
def accepts (filter : Built (ι → Bool)) (item : ι) : Bool := filter.query item

/-- The items that satisfy the filter, in order. -/
def apply (filter : Built (ι → Bool)) (items : List ι) : List ι := items.filter filter.accepts

/-- The number of items that satisfy the filter. -/
def count (filter : Built (ι → Bool)) (items : List ι) : Nat := items.countP filter.accepts

/-- Whether an item satisfies the filter. -/
def any (filter : Built (ι → Bool)) (items : List ι) : Bool := items.any filter.accepts

/-- The first item that satisfies the filter. -/
def find? (filter : Built (ι → Bool)) (items : List ι) : Option ι := items.find? filter.accepts

/-- The place of the first item that satisfies the filter. -/
def position? (filter : Built (ι → Bool)) (items : List ι) : Option Nat :=
  items.findIdx? filter.accepts

end Built

namespace Compiler

variable {ι : Type}

/-- The text of a filter as a predicate. -/
def compile (c : Compiler ι) (text : String) : Except FilterError (Built (ι → Bool)) :=
  c.buildText (predicateBackend ι) text

/-- Checks a filter with all its literals. -/
def validate (c : Compiler ι) (tree : FilterTree) : Except FilterError Unit :=
  ({ c with validateValues := true }.build (predicateBackend ι) tree).map fun _ => ()

end Compiler

end FilterQuery
