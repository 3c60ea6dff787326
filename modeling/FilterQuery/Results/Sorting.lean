import FilterQuery.Access.Mapper
import FilterQuery.Results.SortKey

/-! # Sorting items

Items are sorted by the values of fields, the first key first; items that no key tells apart keep
their order. -/

namespace FilterQuery

variable {ι : Type}

/-- The accessor that a key is read with: the field has to be read directly from an item. -/
def Mapper.sortAccessor (m : Mapper ι) (key : SortKey) : Except FilterError (Accessor ι) :=
  match m.find? key.member with
  | none => .error (.unmappedField key.member)
  | some map =>
    match map.mapping with
    | .single accessor =>
      if accessor.isNested then .error (.invalidOrder (.notSortable map.name) 0) else .ok accessor
    | _ => .error (.invalidOrder (.notSortable map.name) 0)

/-- Order of two items by several keys: the first key that tells them apart decides. -/
def compareItems (a b : ι) : List (Accessor ι × SortKey) → Ordering
  | [] => .eq
  | (accessor, key) :: keys =>
    (key.compare (accessor.read a) (accessor.read b)).then (compareItems a b keys)

/-- Sorts items by several keys. -/
def Mapper.sort (m : Mapper ι) (items : List ι) (keys : List SortKey) :
    Except FilterError (List ι) := do
  -- All keys are looked up before anything is compared.
  let keys ← keys.mapM fun key => do return (← m.sortAccessor key, key)
  return items.mergeSort fun a b => compareItems a b keys != .gt

end FilterQuery
