import FilterQuery.Access.Schema
import Mathlib.Data.List.Forall2

/-!
# Ways to the fields of a schema

A `Route` leads from a record to a leaf field, through fields that hold records. `schema.Reaches type
places route` says that the descriptions of the schema lead along it, field by field, and where these
fields stand in them. `Schema.routes` lists the routes that are not too long, and `Schema.expand`
has an accessor for each.

## Key results

- `mem_routes_iff`, `pairwise_routes`: the routes that are listed are those of the schema, in the
  order of the descriptions
- `forall₂_expand_routes`: the expanded fields are those of the routes, one by one
-/

namespace FilterQuery

variable {τ ι : Type}

/-! ## What the shape of a field tells. -/

namespace Shape

/-- The type of the records that a field holds.  A leaf holds no records. -/
def inner? : Shape τ ι → Option τ
  | record _ type | optionalRecord _ type | records _ type | optionalRecords _ type => some type
  | _ => none

theorem nested?_eq_none_iff {name : String} {shape : Shape τ ι} :
    shape.nested? name = none ↔ shape.inner? = none := by
  cases shape <;> simp [nested?, inner?]

theorem inner?_of_nested? {name : String} {shape : Shape τ ι} {inner : τ}
    {wrap : Accessor ι → Accessor ι} (h : shape.nested? name = some (inner, wrap)) :
    shape.inner? = some inner := by
  cases shape <;> simp_all [nested?, inner?]

theorem exists_leaf? (name : String) {shape : Shape τ ι} (h : shape.inner? = none) :
    ∃ a, shape.leaf? name = some a := by
  cases shape <;> simp_all [leaf?, inner?]

end Shape

/-! ## Routes. -/

/-- A way from a record to a leaf field, through fields that hold records. -/
inductive Route (τ ι : Type) where
  | leaf (name : String) (shape : Shape τ ι)
  | through (name : String) (shape : Shape τ ι) (rest : Route τ ι)

namespace Route

/-- The dotted name of the leaf field. -/
def field : Route τ ι → String
  | leaf name _ => name
  | through name _ rest => name ++ "." ++ rest.field

/-- The number of fields that the way leads through. -/
def depth : Route τ ι → Nat
  | leaf _ _ => 0
  | through _ _ rest => rest.depth + 1

/-- The accessor that a schema has for the leaf field. -/
def accessor? : Route τ ι → Option (Accessor ι)
  | leaf name shape => shape.leaf? name
  | through name shape rest =>
    (shape.nested? name).bind fun (_, wrap) => rest.accessor?.map wrap

theorem accessor?_through_eq_some_iff {name : String} {shape : Shape τ ι} {rest : Route τ ι}
    {a : Accessor ι} :
    (through name shape rest).accessor? = some a ↔
      ∃ inner wrap b, shape.nested? name = some (inner, wrap) ∧ rest.accessor? = some b ∧
        a = wrap b := by
  simp only [accessor?, Option.bind_eq_some_iff, Option.map_eq_some_iff, Prod.exists]
  constructor
  · rintro ⟨inner, wrap, hshape, b, hb, rfl⟩
    exact ⟨inner, wrap, b, hshape, hb, rfl⟩
  · rintro ⟨inner, wrap, b, hshape, hb, rfl⟩
    exact ⟨inner, wrap, hshape, b, hb, rfl⟩

end Route

namespace Schema

/-- Whether the schema leads from a type along the route.  The places tell where the fields of the
route stand in the descriptions of their types. -/
inductive Reaches (schema : Schema τ ι) : τ → List Nat → Route τ ι → Prop
  | leaf {type : τ} {place : Nat} {name : String} {shape : Shape τ ι}
      (hfield : (schema type)[place]? = some (name, shape)) (hshape : shape.inner? = none) :
      Reaches schema type [place] (.leaf name shape)
  | through {type inner : τ} {place : Nat} {places : List Nat} {name : String} {shape : Shape τ ι}
      {rest : Route τ ι} (hfield : (schema type)[place]? = some (name, shape))
      (hshape : shape.inner? = some inner) (hrest : Reaches schema inner places rest) :
      Reaches schema type (place :: places) (.through name shape rest)

/-- The routes along one field of a description, given those from the types of the records inside. -/
def routesAlong (deeper : τ → List (List Nat × Route τ ι)) (place : Nat) (name : String)
    (shape : Shape τ ι) : List (List Nat × Route τ ι) :=
  match shape.inner? with
  | some inner =>
    (deeper inner).map fun (places, rest) => (place :: places, .through name shape rest)
  | none => [([place], .leaf name shape)]

/-- The routes from a type that lead through at most `depth` fields, with their places. -/
def routes (schema : Schema τ ι) : (depth : Nat) → τ → List (List Nat × Route τ ι)
  | 0, type => (schema type).zipIdx.flatMap fun ((name, shape), place) =>
    routesAlong (fun _ => []) place name shape
  | depth + 1, type => (schema type).zipIdx.flatMap fun ((name, shape), place) =>
    routesAlong (schema.routes depth) place name shape

/-! ## Which routes there are. -/

theorem mem_routesAlong_iff {deeper : τ → List (List Nat × Route τ ι)} {place : Nat} {name : String}
    {shape : Shape τ ι} {places : List Nat} {route : Route τ ι} :
    (places, route) ∈ routesAlong deeper place name shape ↔
      (shape.inner? = none ∧ places = [place] ∧ route = .leaf name shape) ∨
        ∃ inner more rest, shape.inner? = some inner ∧ (more, rest) ∈ deeper inner ∧
          places = place :: more ∧ route = .through name shape rest := by
  unfold routesAlong
  cases shape.inner? with
  | none => simp
  | some inner =>
    simp only [List.mem_map, Prod.exists, Prod.mk.injEq, reduceCtorEq, false_and, false_or,
      Option.some.injEq]
    constructor
    · intro h
      obtain ⟨more, rest, hrest, hplaces, hroute⟩ := h
      exact ⟨inner, more, rest, rfl, hrest, hplaces.symm, hroute.symm⟩
    · intro h
      obtain ⟨inner', more, rest, hinner, hrest, hplaces, hroute⟩ := h
      subst hinner
      exact ⟨more, rest, hrest, hplaces.symm, hroute.symm⟩

variable {schema : Schema τ ι}

/-- If the routes inside are those that the schema leads along and that are short, the routes from a
type are those that the schema leads along and that are short from their first field on. -/
theorem mem_flatMap_routesAlong_iff {deeper : τ → List (List Nat × Route τ ι)}
    {Short : Route τ ι → Prop}
    (hdeeper : ∀ inner places rest, (places, rest) ∈ deeper inner ↔
      schema.Reaches inner places rest ∧ Short rest)
    {type : τ} {places : List Nat} {route : Route τ ι} :
    ((places, route) ∈ (schema type).zipIdx.flatMap fun ((name, shape), place) =>
        routesAlong deeper place name shape) ↔
      schema.Reaches type places route ∧
        ∀ name shape rest, route = .through name shape rest → Short rest := by
  simp only [List.mem_flatMap, Prod.exists, List.mk_mem_zipIdx_iff_getElem?, mem_routesAlong_iff]
  constructor
  · intro h
    obtain ⟨name, shape, place, hfield, hroute⟩ := h
    rcases hroute with ⟨hshape, rfl, rfl⟩ | ⟨inner, more, rest, hshape, hrest, rfl, rfl⟩
    · exact ⟨.leaf hfield hshape, nofun⟩
    · obtain ⟨hreaches, hshort⟩ := (hdeeper inner more rest).1 hrest
      refine ⟨.through hfield hshape hreaches, ?_⟩
      intro _ _ _ heq
      cases heq
      exact hshort
  · intro h
    obtain ⟨hreaches, hshort⟩ := h
    cases hreaches with
    | @leaf _ place name shape hfield hshape =>
      exact ⟨name, shape, place, hfield, .inl ⟨hshape, rfl, rfl⟩⟩
    | @through _ inner place more name shape rest hfield hshape hrest =>
      have hmem := (hdeeper inner more rest).2 ⟨hrest, hshort name shape rest rfl⟩
      exact ⟨name, shape, place, hfield, .inr ⟨inner, more, rest, hshape, hmem, rfl, rfl⟩⟩

/-- The routes that are listed are those that the schema leads along and that are not too long. -/
theorem mem_routes_iff {depth : Nat} {type : τ} {places : List Nat} {route : Route τ ι} :
    (places, route) ∈ schema.routes depth type ↔
      schema.Reaches type places route ∧ route.depth ≤ depth := by
  induction depth generalizing type places route with
  | zero =>
    have hnone : ∀ inner places rest, (places, rest) ∈ ([] : List (List Nat × Route τ ι)) ↔
        schema.Reaches inner places rest ∧ False := by simp
    rw [routes, mem_flatMap_routesAlong_iff hnone]
    apply and_congr_right
    intro _
    cases route <;> simp [Route.depth]
  | succ depth ih =>
    rw [routes, mem_flatMap_routesAlong_iff fun _ _ _ => ih]
    apply and_congr_right
    intro _
    cases route <;> simp [Route.depth]

/-! ## The order of the routes. -/

theorem exists_cons_of_mem_routesAlong {deeper : τ → List (List Nat × Route τ ι)} {place : Nat}
    {name : String} {shape : Shape τ ι} {r : List Nat × Route τ ι}
    (h : r ∈ routesAlong deeper place name shape) : ∃ more, r.1 = place :: more := by
  rcases mem_routesAlong_iff.1 h with ⟨-, hplaces, -⟩ | ⟨-, more, -, -, -, hplaces, -⟩
  · exact ⟨[], hplaces⟩
  · exact ⟨more, hplaces⟩

theorem pairwise_routesAlong {deeper : τ → List (List Nat × Route τ ι)}
    (hdeeper : ∀ inner, (deeper inner).Pairwise fun r s => r.1 < s.1) (place : Nat) (name : String)
    (shape : Shape τ ι) :
    (routesAlong deeper place name shape).Pairwise fun r s => r.1 < s.1 := by
  unfold routesAlong
  cases shape.inner? with
  | none => exact List.pairwise_singleton _ _
  | some inner =>
    apply (hdeeper inner).map
    intro r s hlt
    exact List.cons_lt_cons_iff.2 (.inr ⟨rfl, hlt⟩)

/-- Fields that stand further down in a description have the later routes. -/
theorem pairwise_flatMap_routesAlong {deeper : τ → List (List Nat × Route τ ι)}
    (hdeeper : ∀ inner, (deeper inner).Pairwise fun r s => r.1 < s.1) (type : τ) :
    ((schema type).zipIdx.flatMap fun ((name, shape), place) =>
      routesAlong deeper place name shape).Pairwise fun r s => r.1 < s.1 := by
  have hplaces : (schema type).zipIdx.Pairwise fun field other => field.2 < other.2 := by
    rw [← List.pairwise_map (f := Prod.snd) (R := (· < ·)), List.zipIdx_map_snd]
    exact List.pairwise_lt_range' 1
  refine List.pairwise_flatMap.2 ⟨fun field _ => pairwise_routesAlong hdeeper _ _ _, ?_⟩
  -- Routes along different fields differ in their first place.
  refine hplaces.imp fun hlt r hr s hs => ?_
  obtain ⟨more, hmore⟩ := exists_cons_of_mem_routesAlong hr
  obtain ⟨more', hmore'⟩ := exists_cons_of_mem_routesAlong hs
  rw [hmore, hmore']
  exact List.cons_lt_cons_iff.2 (.inl hlt)

/-- The routes stand in the order of the description, with those along a field in its place. -/
theorem pairwise_routes (depth : Nat) (type : τ) :
    (schema.routes depth type).Pairwise fun r s => r.1 < s.1 := by
  induction depth generalizing type with
  | zero => exact pairwise_flatMap_routesAlong (fun _ => .nil) type
  | succ depth ih => exact pairwise_flatMap_routesAlong ih type

/-! ## The accessors of the routes. -/

/-- The fields that one field of a description expands to, given what the types of the records
inside expand to. -/
def expandAlong (deeper : τ → List (String × Accessor ι)) (name : String) (shape : Shape τ ι) :
    List (String × Accessor ι) :=
  match shape.nested? name with
  | some (inner, wrap) => (deeper inner).map fun (field, a) => (name ++ "." ++ field, wrap a)
  | none => ((shape.leaf? name).map (name, ·)).toList

theorem expand_zero (type : τ) :
    schema.expand 0 type = (schema type).flatMap fun (name, shape) =>
      expandAlong (fun _ => []) name shape := by
  rw [expand, List.filterMap_eq_flatMap_toList]
  congr 1
  funext ⟨name, shape⟩
  cases shape <;> rfl

theorem expand_succ (depth : Nat) (type : τ) :
    schema.expand (depth + 1) type = (schema type).flatMap fun (name, shape) =>
      expandAlong (schema.expand depth) name shape := by
  rw [expand]
  rfl

/-- Whether an expanded field is that of a route: it has its name and its accessor. -/
def IsOf (entry : String × Accessor ι) (r : List Nat × Route τ ι) : Prop :=
  entry.1 = r.2.field ∧ r.2.accessor? = some entry.2

theorem forall₂_expandAlong {fields : τ → List (String × Accessor ι)}
    {deeper : τ → List (List Nat × Route τ ι)}
    (hdeeper : ∀ inner, List.Forall₂ IsOf (fields inner) (deeper inner)) (place : Nat)
    (name : String) (shape : Shape τ ι) :
    List.Forall₂ IsOf (expandAlong fields name shape) (routesAlong deeper place name shape) := by
  unfold expandAlong routesAlong
  cases hnested : shape.nested? name with
  | none =>
    have hshape := Shape.nested?_eq_none_iff.1 hnested
    obtain ⟨a, ha⟩ := Shape.exists_leaf? name hshape
    simp only [hshape, ha, Option.map_some, Option.toList_some]
    exact .cons ⟨rfl, ha⟩ .nil
  | some nested =>
    obtain ⟨inner, wrap⟩ := nested
    simp only [Shape.inner?_of_nested? hnested, List.forall₂_map_left_iff,
      List.forall₂_map_right_iff]
    refine (hdeeper inner).imp fun entry r hentry => ?_
    obtain ⟨hfield, haccessor⟩ := hentry
    exact ⟨by rw [Route.field, hfield],
      Route.accessor?_through_eq_some_iff.2 ⟨inner, wrap, entry.2, hnested, haccessor, rfl⟩⟩

theorem forall₂_flatMap_expandAlong {fields : τ → List (String × Accessor ι)}
    {deeper : τ → List (List Nat × Route τ ι)}
    (hdeeper : ∀ inner, List.Forall₂ IsOf (fields inner) (deeper inner))
    (description : List (String × Shape τ ι)) (first : Nat) :
    List.Forall₂ IsOf (description.flatMap fun (name, shape) => expandAlong fields name shape)
      ((description.zipIdx first).flatMap fun ((name, shape), place) =>
        routesAlong deeper place name shape) := by
  induction description generalizing first with
  | nil => exact .nil
  | cons field description ih =>
    rw [List.zipIdx_cons, List.flatMap_cons, List.flatMap_cons]
    exact List.rel_append (forall₂_expandAlong hdeeper first field.1 field.2) (ih (first + 1))

/-- The expanded fields are those of the routes, one by one. -/
theorem forall₂_expand_routes (depth : Nat) (type : τ) :
    List.Forall₂ IsOf (schema.expand depth type) (schema.routes depth type) := by
  induction depth generalizing type with
  | zero =>
    rw [expand_zero, routes]
    exact forall₂_flatMap_expandAlong (fun _ => .nil) (schema type) 0
  | succ depth ih =>
    rw [expand_succ, routes]
    exact forall₂_flatMap_expandAlong ih (schema type) 0

/-- The schema leads along the route of each expanded field. -/
theorem forall₂_expand_reaches (depth : Nat) (type : τ) :
    List.Forall₂ (fun entry r => schema.Reaches type r.1 r.2 ∧ IsOf entry r)
      (schema.expand depth type) (schema.routes depth type) := by
  have hreaches : ∀ r ∈ schema.routes depth type, schema.Reaches type r.1 r.2 :=
    fun r hr => (mem_routes_iff.1 hr).1
  exact ((List.forall₂_and_left _ _).2 ⟨hreaches, (forall₂_expand_routes depth type).flip⟩).flip

theorem exists_route_of_mem_expand {depth : Nat} {type : τ} {entry : String × Accessor ι}
    (h : entry ∈ schema.expand depth type) :
    ∃ places route, schema.Reaches type places route ∧ entry.1 = route.field ∧
      route.accessor? = some entry.2 := by
  have hall : List.Forall₂ (fun entry r => schema.Reaches type r.1 r.2 ∧ IsOf entry r)
      (schema.expand depth type) (schema.routes depth type) := forall₂_expand_reaches depth type
  generalize schema.expand depth type = entries at h hall
  generalize schema.routes depth type = routes at hall
  induction hall with
  | nil => cases h
  | @cons first r _ _ hfirst _ ih =>
    rcases List.mem_cons.1 h with rfl | h
    · exact ⟨r.1, r.2, hfirst.1, hfirst.2.1, hfirst.2.2⟩
    · exact ih h

end Schema

end FilterQuery
