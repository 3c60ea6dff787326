import FilterQuery.Compile.Document
import FilterQuery.Proofs.SchemaWalks

/-!
# Where documents look for the fields of a schema

A document finds a field by the path of its accessor, or by the name of the field if the accessor has
no path. Lifting an accessor under a record puts the name of the record in front of its path and
leaves an accessor without a path as it is, so that the dotted name of the field serves. Behind a
collection an accessor without a path gets that of the collection. This is meant for the elements
themselves, and loses the names below the collection where a record has a leaf without a path.

## Key results

- `path_of_accessor?`: the path of the accessor of a route
- `target_eq_iff`: the leaf fields that documents look for under their dotted names
- `target_of_bare_field`: a leaf field that they look for elsewhere
-/

namespace FilterQuery

variable {τ ι : Type}

/-- The path that a leaf of the given name carries in its own record. -/
def Shape.path? (name : String) : Shape τ ι → Option String
  | scalar _ _ _ | scalars _ _ _ _ | optionalScalars _ _ _ _ => some name
  | accessor a => a.path
  | _ => none

theorem Shape.path_of_leaf? {name : String} {shape : Shape τ ι} {a : Accessor ι}
    (h : shape.leaf? name = some a) : a.path = shape.path? name := by
  cases shape with
  | scalar kind nullable read =>
    cases h
    rfl
  | accessor own =>
    cases h
    rfl
  | scalars kind nullable elements read =>
    cases h
    exact congrArg some (joinPaths_empty_right name)
  | optionalScalars kind nullable elements read =>
    cases h
    exact congrArg some (joinPaths_empty_right name)
  | _ => cases h

namespace Route

/-! ## The parts of a route. -/

/-- The name of the leaf in its own record. -/
def name : Route τ ι → String
  | leaf name _ => name
  | through _ _ rest => rest.name

/-- The path that the leaf carries in its own record. -/
def path? : Route τ ι → Option String
  | leaf name shape => shape.path? name
  | through _ _ rest => rest.path?

/-- The dotted name of the fields that the way leads through. -/
def around : Route τ ι → String
  | leaf _ _ => ""
  | through name _ rest => joinPaths name rest.around

/-- The dotted name of the innermost collection that the way leads through. -/
def collectionAround? : Route τ ι → Option String
  | leaf _ _ => none
  | through name shape rest =>
    match rest.collectionAround? with
    | some path => some (joinPaths name path)
    | none => if shape.isCollection then some name else none

/-- The path of the leaf by the names on the way: that of the fields around it, and after it the path
that the leaf carries, or else its name. -/
def dottedPath (route : Route τ ι) : String :=
  joinPaths route.around (route.path?.getD route.name)

variable {schema : Schema τ ι} {route : Route τ ι} {a : Accessor ι}

theorem field_ne_empty (hnames : ∀ type, ∀ field ∈ schema type, field.1 ≠ "") {type : τ}
    {places : List Nat} (h : schema.Reaches type places route) : route.field ≠ "" := by
  cases h with
  | leaf hfield _ => exact hnames _ _ (List.mem_of_getElem? hfield)
  | through hfield _ _ =>
    have hname := hnames _ _ (List.mem_of_getElem? hfield)
    simp [field, hname]

theorem name_ne_empty (hnames : ∀ type, ∀ field ∈ schema type, field.1 ≠ "") {type : τ}
    {places : List Nat} (h : schema.Reaches type places route) : route.name ≠ "" := by
  induction h with
  | leaf hfield _ => exact hnames _ _ (List.mem_of_getElem? hfield)
  | through _ _ _ ih => exact ih

/-- The dotted name of a leaf field is its own name after those of the fields around it. -/
theorem field_eq_joinPaths (hnames : ∀ type, ∀ field ∈ schema type, field.1 ≠ "") {type : τ}
    {places : List Nat} (h : schema.Reaches type places route) :
    route.field = joinPaths route.around route.name := by
  induction h with
  | leaf _ _ => rw [field, around, name, joinPaths_empty_left]
  | through hfield _ hrest ih =>
    have hname := hnames _ _ (List.mem_of_getElem? hfield)
    rw [field, around, name, joinPaths_assoc, ← ih,
      joinPaths_of_ne hname (field_ne_empty hnames hrest)]

/-- The innermost collection on the way is one of the fields around the leaf, and the first of them
lead to it. -/
theorem exists_around_eq {path : String} (h : route.collectionAround? = some path) :
    ∃ below, route.around = joinPaths path below := by
  induction route generalizing path with
  | leaf name shape => cases h
  | through name shape rest ih =>
    rw [collectionAround?] at h
    cases hrest : rest.collectionAround? with
    | some inside =>
      simp only [hrest] at h
      cases h
      obtain ⟨below, hbelow⟩ := ih hrest
      exact ⟨below, by rw [around, hbelow, joinPaths_assoc]⟩
    | none =>
      simp only [hrest] at h
      split at h
      · cases h
        exact ⟨rest.around, rfl⟩
      · cases h

/-! ## The paths of accessors. -/

/-- The accessor of a leaf that carries a path has that path behind the names of the fields around
it. Without a path of the leaf it has that of the innermost collection around it, if there is one. -/
theorem path_of_accessor? (h : route.accessor? = some a) :
    a.path = (route.path?.map (joinPaths route.around)).or route.collectionAround? := by
  induction route generalizing a with
  | leaf name shape =>
    have hleft : joinPaths (leaf name shape).around = id := by
      funext path
      exact joinPaths_empty_left path
    rw [Shape.path_of_leaf? h, path?, hleft, Option.map_id, id, collectionAround?, Option.or_none]
  | through name shape rest ih =>
    obtain ⟨inner, wrap, b, hshape, hb, rfl⟩ := accessor?_through_eq_some_iff.1 h
    have hpath := ih hb
    rw [path?, around, collectionAround?]
    rcases Shape.nested?_cases hshape with ⟨hop, hcollection, rfl⟩ | ⟨elements, hcollection, -, rfl⟩
    · -- A record puts its name in front, if there is a path.
      have hlift : (b.lift name hop shape.isNullable).path = b.path.map (joinPaths name) := rfl
      show (b.lift name hop shape.isNullable).path = _
      rw [hlift, hpath, hcollection]
      cases rest.path? with
      | some own => simp [joinPaths_assoc]
      | none => cases rest.collectionAround? <;> simp
    · -- A collection puts its name in front of what there is.
      have heach : (Accessor.each name elements b).path =
          some (joinPaths name (b.path.getD "")) := rfl
      rw [heach, hpath, hcollection]
      cases rest.path? with
      | some own => simp [joinPaths_assoc]
      | none => cases rest.collectionAround? <;> simp

/-- The path of the innermost collection around a leaf lacks the name of the leaf. -/
theorem dottedPath_ne (hname : route.name ≠ "") (hpath : route.path? = none) {path : String}
    (h : route.collectionAround? = some path) : path ≠ route.dottedPath := by
  obtain ⟨below, hbelow⟩ := exists_around_eq h
  have hdotted : route.dottedPath = joinPaths path (joinPaths below route.name) := by
    rw [dottedPath, hpath, hbelow, Option.getD_none, joinPaths_assoc]
  intro heq
  rw [hdotted, eq_comm, joinPaths_eq_left_iff, joinPaths_eq_empty_iff] at heq
  exact hname heq.2

end Route

namespace Schema

/-- Of the fields that a type is expanded to, those are found in documents under their dotted names
whose leaves carry a path or are in no record of a collection. The others are looked for under the
path of the innermost collection around them. -/
theorem target_eq_iff (schema : Schema τ ι)
    (hnames : ∀ type, ∀ field ∈ schema type, field.1 ≠ "") (depth : Nat) (type : τ) :
    List.Forall₂ (fun entry r =>
        entry.1 = r.2.field ∧
        (entry.2.path.getD entry.1 = r.2.dottedPath ↔
          r.2.path? ≠ none ∨ r.2.collectionAround? = none) ∧
        ∀ path, r.2.path? = none → r.2.collectionAround? = some path → entry.2.path = some path)
      (schema.expand depth type) (schema.routes depth type) := by
  refine (forall₂_expand_reaches depth type).imp fun entry r hentry => ?_
  obtain ⟨hreaches, hfield, haccessor⟩ := hentry
  have hname := Route.name_ne_empty hnames hreaches
  have hpath := Route.path_of_accessor? haccessor
  refine ⟨hfield, ?_, ?_⟩
  · cases hown : r.2.path? with
    | some own => simp [hpath, hown, Route.dottedPath]
    | none =>
      cases haround : r.2.collectionAround? with
      | none =>
        have hdotted : entry.1 = r.2.dottedPath := by
          rw [hfield, Route.field_eq_joinPaths hnames hreaches, Route.dottedPath, hown,
            Option.getD_none]
        simp [hpath, hown, haround, hdotted]
      | some path =>
        have hne := Route.dottedPath_ne hname hown haround
        simp [hpath, hown, haround, hne]
  · intro path hown haround
    rw [hpath, hown, haround]
    rfl

/-- A leaf without a path that tells whether a number is even. -/
def bareEven : Shape Unit Nat := .accessor (.computed .bool false evenValue)

theorem names_ne_empty_numberSchema (even : Shape Unit Nat) :
    ∀ type, ∀ field ∈ numberSchema even type, field.1 ≠ "" := by
  intro type field hfield
  simp only [numberSchema, List.mem_cons, List.not_mem_nil, or_false] at hfield
  rcases hfield with rfl | rfl | rfl <;> simp

theorem target_eq_iff_previous :
    (∀ type, ∀ field ∈ numberSchema bareEven type, field.1 ≠ "") ∧
      ∃ even previous below, (numberSchema bareEven).expand 1 () =
          [("even", even), ("previous.even", previous), ("below.even", below)] ∧
        previous.path.getD "previous.even" = "previous.even" ∧ below.path = some "below" := by
  have hnames := names_ne_empty_numberSchema bareEven
  have htargets := target_eq_iff (numberSchema bareEven) hnames 1 ()
  obtain ⟨even, previous, below, hexpand⟩ : ∃ even previous below,
      (numberSchema bareEven).expand 1 () =
        [("even", even), ("previous.even", previous), ("below.even", below)] := ⟨_, _, _, rfl⟩
  have hroutes : (numberSchema bareEven).routes 1 () =
      [([0], .leaf "even" bareEven),
        ([1, 0], .through "previous" (.optionalRecord previous? ()) (.leaf "even" bareEven)),
        ([2, 0], .through "below" (.records List.range ()) (.leaf "even" bareEven))] := rfl
  rw [hexpand, hroutes] at htargets
  simp only [List.forall₂_cons] at htargets
  obtain ⟨-, hprevious, hbelow, -⟩ := htargets
  exact ⟨hnames, even, previous, below, hexpand, hprevious.2.1.2 (.inr rfl),
    hbelow.2.2 "below" rfl rfl⟩

/-- Filters on numbers by the fields that their schema expands to. -/
def numberCompiler (even : Shape Unit Nat) (depth : Nat) : Compiler Nat where
  mapper := Mapper.autoPopulate { config := { caseSensitiveNames := true }, operators := .empty }
    (numberSchema even) () depth

/-- Whether the field tells that a number is even. -/
def saysEven (field : String) : Expr := .comparison (.field field none) .equal (.value "true" false)

/-- The leaf without a path that is in a record of a collection is looked for under the path of the
collection, and not under its dotted name. -/
theorem target_of_bare_field :
    (∀ type, ∀ field ∈ numberSchema bareEven type, field.1 ≠ "") ∧
      bareEven.isCollection = false ∧
      (numberSchema bareEven).Reaches () [2, 0]
        (.through "below" (.records List.range ()) (.leaf "even" bareEven)) ∧
      (Route.through "below" (.records List.range ()) (.leaf "even" bareEven)).dottedPath =
        "below.even" ∧
      (numberCompiler bareEven 1).build (documentBackend Nat) ⟨saysEven "below.even", []⟩ =
        .ok ⟨Document.single "nested" (.object [("path", .string "below"),
          ("query", Document.fieldQuery "term" "below" (.bool true) false)]), true⟩ := by
  have hreaches : (numberSchema bareEven).Reaches () [2, 0]
      (.through "below" (.records List.range ()) (.leaf "even" bareEven)) :=
    .through rfl rfl (.leaf rfl rfl)
  exact ⟨names_ne_empty_numberSchema bareEven, rfl, hreaches, rfl, rfl⟩

end Schema

end FilterQuery
