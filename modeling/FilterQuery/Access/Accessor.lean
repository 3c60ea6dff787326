import FilterQuery.Value

/-! # Accessors

An `Accessor ι` tells how a field is read from items of type `ι`: through a chain of collections,
any element of which may satisfy a condition, down to a value.  Elements of collections and records
inside an item have the same type `ι` as the item.  Paths of collections are dotted and begin at the
item.

## Key results

* `reach_lift`, `reach_lift_of_none`: lifting an accessor under a record reads the record of an
  item, where there is one
* `joinPaths_assoc`: paths are joined piece by piece in any order -/

namespace FilterQuery

/-- Joins two dotted paths; an empty one does not count. -/
def joinPaths (outer inner : String) : String :=
  if outer = "" then inner else if inner = "" then outer else outer ++ "." ++ inner

@[simp] theorem joinPaths_empty_left (inner : String) : joinPaths "" inner = inner := by
  simp [joinPaths]

@[simp] theorem joinPaths_empty_right (outer : String) : joinPaths outer "" = outer := by
  by_cases h : outer = "" <;> simp [joinPaths, h]

/-- Between two paths that are not empty there is a dot. -/
theorem joinPaths_of_ne {outer inner : String} (houter : outer ≠ "") (hinner : inner ≠ "") :
    joinPaths outer inner = outer ++ "." ++ inner := by
  simp [joinPaths, houter, hinner]

theorem joinPaths_eq_empty_iff {outer inner : String} :
    joinPaths outer inner = "" ↔ outer = "" ∧ inner = "" := by
  by_cases houter : outer = ""
  · simp [houter]
  · by_cases hinner : inner = ""
    · simp [hinner]
    · simp [joinPaths_of_ne houter hinner, houter]

/-- A path is longer than what it begins with, unless there is nothing after it. -/
theorem joinPaths_eq_left_iff {outer inner : String} :
    joinPaths outer inner = outer ↔ inner = "" := by
  by_cases houter : outer = ""
  · simp [houter]
  · by_cases hinner : inner = ""
    · simp [hinner]
    · rw [joinPaths_of_ne houter hinner]
      constructor
      · intro h
        have hlength := congrArg String.length h
        simp only [String.length_append] at hlength
        have hdot : ".".length = 1 := rfl
        omega
      · intro h
        exact absurd h hinner

/-- What follows in a path is told by the path and what it begins with. -/
theorem joinPaths_left_cancel {outer inner inner' : String}
    (h : joinPaths outer inner = joinPaths outer inner') : inner = inner' := by
  by_cases houter : outer = ""
  · simpa [houter] using h
  · by_cases hinner : inner = ""
    · rw [hinner, joinPaths_empty_right, eq_comm, joinPaths_eq_left_iff] at h
      rw [hinner, h]
    · by_cases hinner' : inner' = ""
      · rw [hinner', joinPaths_empty_right, joinPaths_eq_left_iff] at h
        exact absurd h hinner
      · rw [joinPaths_of_ne houter hinner, joinPaths_of_ne houter hinner'] at h
        rw [← String.toList_inj] at h ⊢
        simpa using h

theorem joinPaths_assoc (outer middle inner : String) :
    joinPaths (joinPaths outer middle) inner = joinPaths outer (joinPaths middle inner) := by
  by_cases houter : outer = ""
  · simp [houter]
  · by_cases hmiddle : middle = ""
    · simp [hmiddle]
    · by_cases hinner : inner = ""
      · simp [hinner]
      · have hleft : joinPaths outer middle ≠ "" := fun h => houter (joinPaths_eq_empty_iff.1 h).1
        have hright : joinPaths middle inner ≠ "" := fun h => hinner (joinPaths_eq_empty_iff.1 h).2
        rw [joinPaths_of_ne hleft hinner, joinPaths_of_ne houter hright,
          joinPaths_of_ne houter hmiddle, joinPaths_of_ne hmiddle hinner]
        simp only [String.append_assoc]

/-- The way from an item to the values of a field. -/
inductive Chain (ι : Type) where
  /-- The value is read directly. -/
  | value (read : ι → Value)
  /-- The rest of the way begins at each element of a collection, which may be absent. -/
  | each (path : String) (elements : ι → Option (List ι)) (inner : Chain ι)

namespace Chain

variable {ι : Type}

/-- Whether the way leads through a collection. -/
def isNested : Chain ι → Bool
  | value _ => false
  | each _ _ _ => true

/-- The paths of the collections on the way, outermost first. -/
def collections : Chain ι → List String
  | value _ => []
  | each path _ inner => path :: inner.collections

/-- The values at the end of the way, in order; an absent collection has no elements. -/
def reach : Chain ι → ι → List Value
  | value read, item => [read item]
  | each _ elements inner, item => ((elements item).getD []).flatMap inner.reach

/-- Puts a path in front of the paths of all collections. -/
def under (base : String) : Chain ι → Chain ι
  | value read => value read
  | each path elements inner => each (joinPaths base path) elements (inner.under base)

/-- Makes the way begin at an item around the one it began at.  Where that is missing, the value
or the collection is absent. -/
def lift (base : String) (hop : ι → Option ι) : Chain ι → Chain ι
  | value read => value fun item => ((hop item).map read).getD .absent
  | each path elements inner =>
    each (joinPaths base path) (fun item => (hop item).bind elements) (inner.under base)

theorem reach_under (base : String) (chain : Chain ι) (item : ι) :
    (chain.under base).reach item = chain.reach item := by
  induction chain generalizing item with
  | value read => rfl
  | each path elements inner ih =>
    simp only [under, reach]
    congr 1
    funext element
    exact ih element

theorem collections_under (base : String) (chain : Chain ι) :
    (chain.under base).collections = chain.collections.map (joinPaths base) := by
  induction chain with
  | value read => rfl
  | each path elements inner ih => simp [under, collections, ih]

theorem collections_lift (base : String) (hop : ι → Option ι) (chain : Chain ι) :
    (chain.lift base hop).collections = chain.collections.map (joinPaths base) := by
  cases chain with
  | value read => rfl
  | each path elements inner => simp [lift, collections, collections_under]

/-- Where the outer item leads to an inner one, a lifted way reaches what the way reaches there. -/
theorem reach_lift (base : String) {hop : ι → Option ι} {outer inner : ι}
    (h : hop outer = some inner) (chain : Chain ι) :
    (chain.lift base hop).reach outer = chain.reach inner := by
  cases chain with
  | value read => simp [lift, reach, h]
  | each path elements rest =>
    simp only [lift, reach, h, Option.bind_some]
    congr 1
    funext element
    exact reach_under base rest element

/-- Where the outer item leads to no inner one, a lifted way reaches a single absent value, or
nothing at all if it leads through a collection. -/
theorem reach_lift_of_none (base : String) {hop : ι → Option ι} {outer : ι}
    (h : hop outer = none) (chain : Chain ι) :
    (chain.lift base hop).reach outer = if chain.isNested then [] else [.absent] := by
  cases chain with
  | value read => simp [lift, reach, isNested, h]
  | each path elements rest => simp [lift, reach, isNested, h]

theorem collections_eq_nil_iff {chain : Chain ι} :
    chain.collections = [] ↔ chain.isNested = false := by
  cases chain <;> simp [collections, isNested]

theorem isNested_lift (base : String) (hop : ι → Option ι) (chain : Chain ι) :
    (chain.lift base hop).isNested = chain.isNested := by
  cases chain <;> rfl

end Chain

/-- How a field is read. -/
structure Accessor (ι : Type) where
  chain : Chain ι
  kind : FieldKind
  /-- Whether the field may have no value. -/
  nullable : Bool
  /-- The dotted path that query documents use for the field. -/
  path : Option String := none

namespace Accessor

variable {ι : Type}

/-- The field whose value a function gives. -/
def computed (kind : FieldKind) (nullable : Bool) (read : ι → Value) : Accessor ι :=
  { chain := .value read, kind, nullable }

/-- The field of the elements of a collection, at the given path. -/
def each (path : String) (elements : ι → Option (List ι)) (inner : Accessor ι) : Accessor ι :=
  { inner with
    chain := .each path elements (inner.chain.under path)
    path := some (joinPaths path (inner.path.getD "")) }

/-- The field as it is read from an item around the one it belongs to.  `nullable` tells that the
inner item may be missing. -/
def lift (a : Accessor ι) (base : String) (hop : ι → Option ι) (nullable : Bool) : Accessor ι :=
  { chain := a.chain.lift base hop
    kind := a.kind
    nullable := a.nullable || nullable
    path := a.path.map (joinPaths base) }

/-- The accessor with another target path. -/
def withPath (a : Accessor ι) (path : String) : Accessor ι := { a with path := some path }

/-- Whether the field lies in a collection. -/
def isNested (a : Accessor ι) : Bool := a.chain.isNested

/-- The value of the field; a field in a collection has none of its own. -/
def read (a : Accessor ι) (item : ι) : Value :=
  match a.chain with
  | .value read => read item
  | .each _ _ _ => .absent

end Accessor

end FilterQuery
