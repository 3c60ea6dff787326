import FilterQuery.Filter.Token.Scan
import FilterQuery.Json
import FilterQuery.Value

/-! # Custom operators

A `CustomOperator` is a name that begins with `#`, a predicate, and possibly a template for query
documents.  `OperatorRegistry` holds operators with distinct names in ascending order.

## Key results

* `find?_insert_self`, `find?_insert_of_ne`, `find?_remove`: what is found after a change -/

namespace FilterQuery

/-- An operator supplied by the user. -/
structure CustomOperator where
  /-- The name, with the leading `#`. -/
  name : String
  /-- Whether the operator holds of the value of a field and the text of a literal. -/
  predicate : Value → String → Bool
  /-- The query document for the path of a field and the text of a literal. -/
  document : Option (String → String → Json) := none

/-- Whether a text can name a custom operator: a `#` and at least one field character. -/
def isOperatorName (name : String) : Bool :=
  match name.toList with
  | '#' :: rest => !rest.isEmpty && rest.all isFieldChar
  | _ => false

/-- A set of custom operators. -/
structure OperatorRegistry where
  operators : List CustomOperator := []
  ascending : operators.Pairwise (fun a b => a.name < b.name) := by simp
  named : ∀ op ∈ operators, isOperatorName op.name = true := by simp

namespace OperatorRegistry

/-- The registry without operators. -/
def empty : OperatorRegistry := {}

/-- The names of the operators, in ascending order. -/
def names (r : OperatorRegistry) : List String := r.operators.map (·.name)

theorem isOperatorName_of_mem_names (r : OperatorRegistry) {name : String} (h : name ∈ r.names) :
    isOperatorName name = true := by
  obtain ⟨op, hop, rfl⟩ := List.mem_map.1 h
  exact r.named op hop

/-- The operator with the given name. -/
def find? (r : OperatorRegistry) (name : String) : Option CustomOperator :=
  r.operators.find? (·.name == name)

/-- Whether there is an operator with the given name. -/
def contains (r : OperatorRegistry) (name : String) : Bool := (r.find? name).isSome

/-- Number of operators. -/
def size (r : OperatorRegistry) : Nat := r.operators.length

/-- Puts an operator in its place among operators in ascending order. -/
def insertAscending (op : CustomOperator) : List CustomOperator → List CustomOperator
  | [] => [op]
  | other :: ops =>
    if op.name < other.name then op :: other :: ops else other :: insertAscending op ops

theorem mem_insertAscending {op x : CustomOperator} {ops : List CustomOperator} :
    x ∈ insertAscending op ops ↔ x = op ∨ x ∈ ops := by
  induction ops with
  | nil => simp [insertAscending]
  | cons other ops ih =>
    unfold insertAscending
    split
    · simp
    · simp only [List.mem_cons, ih]; grind

theorem pairwise_insertAscending {op : CustomOperator} {ops : List CustomOperator}
    (hops : ops.Pairwise (fun a b => a.name < b.name)) (hnew : ∀ x ∈ ops, x.name ≠ op.name) :
    (insertAscending op ops).Pairwise (fun a b => a.name < b.name) := by
  induction ops with
  | nil => simp [insertAscending]
  | cons other ops ih =>
    rw [List.pairwise_cons] at hops
    unfold insertAscending
    split
    -- The new operator comes first, before all others by transitivity.
    · rename_i hlt
      refine List.pairwise_cons.2 ⟨fun x hx => ?_, List.pairwise_cons.2 hops⟩
      rcases List.mem_cons.1 hx with rfl | hx
      · exact hlt
      · exact String.lt_trans hlt (hops.1 x hx)
    -- It comes further down; the first operator stays below it as well.
    · rename_i hlt
      refine List.pairwise_cons.2 ⟨fun x hx => ?_, ih hops.2 fun x hx => hnew x (by simp [hx])⟩
      rcases mem_insertAscending.1 hx with rfl | hx
      · exact Std.lt_of_le_of_ne (String.not_lt.1 hlt) (hnew other (by simp))
      · exact hops.1 x hx

/-- The registry with one more operator, whose name is valid and new. -/
def insert (r : OperatorRegistry) (op : CustomOperator) (hname : isOperatorName op.name = true)
    (hnew : r.contains op.name = false) : OperatorRegistry where
  operators := insertAscending op r.operators
  ascending := pairwise_insertAscending r.ascending fun x hx he => by
    simp only [contains, find?, Option.isSome_eq_false_iff, Option.isNone_iff_eq_none,
      List.find?_eq_none] at hnew
    exact hnew x hx (by simp [he])
  named := fun x hx => by
    rcases mem_insertAscending.1 hx with rfl | hx
    · exact hname
    · exact r.named x hx

/-- What comes of registering an operator. -/
inductive Registration where
  /-- The operator was added. -/
  | added (registry : OperatorRegistry)
  /-- An operator with this name is there already, and is kept. -/
  | known
  /-- The name is not valid. -/
  | badName

/-- Registers an operator under its name, unless that is not valid or already taken. -/
def register (r : OperatorRegistry) (op : CustomOperator) : Registration :=
  if hname : isOperatorName op.name = true then
    if hnew : r.contains op.name = false then .added (r.insert op hname hnew) else .known
  else .badName

/-- The registry without the operator of the given name. -/
def remove (r : OperatorRegistry) (name : String) : OperatorRegistry where
  operators := r.operators.filter (·.name != name)
  ascending := r.ascending.sublist List.filter_sublist
  named := fun op hop => r.named op (List.mem_filter.1 hop).1

theorem find?_insertAscending_self {op : CustomOperator} {ops : List CustomOperator}
    (hnew : ∀ x ∈ ops, x.name ≠ op.name) :
    (insertAscending op ops).find? (·.name == op.name) = some op := by
  induction ops with
  | nil => simp [insertAscending]
  | cons other ops ih =>
    unfold insertAscending
    split
    · simp
    -- The operator in front has another name.
    · rw [List.find?_cons_of_neg (by simpa using hnew other (by simp))]
      exact ih fun x hx => hnew x (by simp [hx])

theorem find?_insertAscending_of_ne {op : CustomOperator} {ops : List CustomOperator}
    {name : String} (hne : op.name ≠ name) :
    (insertAscending op ops).find? (·.name == name) = ops.find? (·.name == name) := by
  induction ops with
  | nil => simp [insertAscending, hne]
  | cons other ops ih =>
    unfold insertAscending
    split
    · rw [List.find?_cons_of_neg (by simpa using hne)]
    · rw [List.find?_cons, List.find?_cons, ih]

/-- An operator that was inserted is found under its name. -/
theorem find?_insert_self (r : OperatorRegistry) (op : CustomOperator)
    (hname : isOperatorName op.name = true) (hnew : r.contains op.name = false) :
    (r.insert op hname hnew).find? op.name = some op :=
  find?_insertAscending_self fun x hx he => by
    simp only [contains, find?, Option.isSome_eq_false_iff, Option.isNone_iff_eq_none,
      List.find?_eq_none] at hnew
    exact hnew x hx (by simp [he])

/-- Inserting an operator changes nothing under other names. -/
theorem find?_insert_of_ne (r : OperatorRegistry) (op : CustomOperator)
    (hname : isOperatorName op.name = true) (hnew : r.contains op.name = false) {name : String}
    (hne : op.name ≠ name) : (r.insert op hname hnew).find? name = r.find? name :=
  find?_insertAscending_of_ne hne

/-- Removing a name takes away what is found under it and nothing else. -/
theorem find?_remove (r : OperatorRegistry) (name other : String) :
    (r.remove name).find? other = if other = name then none else r.find? other := by
  simp only [remove, find?, List.find?_filter]
  split
  · rename_i h
    subst h
    simp
  · rename_i h
    congr 1
    funext x
    -- The two conditions on an operator differ only at the removed name.
    by_cases hx : x.name = other <;> simp [hx, h]

end OperatorRegistry

end FilterQuery
