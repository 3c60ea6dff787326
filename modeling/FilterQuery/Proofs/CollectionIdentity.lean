import FilterQuery.Proofs.Merging
import FilterQuery.Proofs.TargetPaths
import Mathlib.Data.List.Nodup
import Mathlib.Data.List.TakeWhile

/-!
# Collections told apart by their paths

Conditions on elements of collections are merged if the collections have the same path. In a schema
whose names have no dots, the path of a collection tells through which fields one comes to it, and so
which elements it has: fields that hold one record go into the path without being collections
themselves, and each collection on the way is a step of its own.

## Key results

- `joinPaths_inj`: a path is split at its first dot in one way
- `Route.collections_of_accessor?`: the collections of the accessor of a route are those on the way
- `Route.stepsAgree`: steps with the same path stand at the same place, behind the same steps
- `expand_identifies_collections`: fields of one expansion have a collection in common if they have
  its path in common
- `isConsistent_of_isPopulated`: in a mapper that is filled from a schema, collections with the same
  path have the same elements
-/

namespace FilterQuery

variable {τ ι : Type}

/-! ## Dotted paths. -/

/-- A path begins with what is joined first, up to a dot. -/
theorem takeWhile_joinPaths {outer : String} (houter : outer ≠ "") (hdot : '.' ∉ outer.toList)
    (inner : String) : (joinPaths outer inner).toList.takeWhile (· != '.') = outer.toList := by
  have hall : ∀ c ∈ outer.toList, (c != '.') = true := by
    intro c hc
    exact bne_iff_ne.2 fun heq => hdot (heq ▸ hc)
  by_cases hinner : inner = ""
  · rw [hinner, joinPaths_empty_right, List.takeWhile_eq_self_iff]
    exact hall
  · rw [joinPaths_of_ne houter hinner, String.toList_append, String.toList_append,
      List.append_assoc, List.takeWhile_append_of_pos hall]
    simp

/-- Paths that begin with names without dots are the same only if the names are, and what follows. -/
theorem joinPaths_inj {outer outer' inner inner' : String} (houter : outer ≠ "")
    (houter' : outer' ≠ "") (hdot : '.' ∉ outer.toList) (hdot' : '.' ∉ outer'.toList)
    (h : joinPaths outer inner = joinPaths outer' inner') : outer = outer' ∧ inner = inner' := by
  have hsame : outer = outer' := by
    rw [← String.toList_inj, ← takeWhile_joinPaths houter hdot inner, h,
      takeWhile_joinPaths houter' hdot']
  subst hsame
  exact ⟨rfl, joinPaths_left_cancel h⟩

/-! ## The steps of a chain. -/

/-- The collection, with a path in front of its own. -/
def Collection.under (base : String) (s : Collection ι) : Collection ι :=
  { s with path := joinPaths base s.path }

/-- The steps of a lifted chain: the first one begins at the outer item. -/
def liftSteps (base : String) (hop : ι → Option ι) : List (Collection ι) → List (Collection ι)
  | [] => []
  | first :: rest =>
    { path := joinPaths base first.path, elements := fun item => (hop item).bind first.elements } ::
      rest.map (.under base)

namespace Chain

theorem map_path_steps (chain : Chain ι) : chain.steps.map (·.path) = chain.collections := by
  induction chain with
  | value read => rfl
  | each path elements inner ih => rw [steps, List.map_cons, ih, collections]

variable (base : String) (hop : ι → Option ι)

theorem steps_under (chain : Chain ι) :
    (chain.under base).steps = chain.steps.map (.under base) := by
  induction chain with
  | value read => rfl
  | each path elements inner ih => rw [under, steps, ih, steps, List.map_cons, Collection.under]

theorem steps_lift (chain : Chain ι) :
    (chain.lift base hop).steps = liftSteps base hop chain.steps := by
  cases chain with
  | value read => rfl
  | each path elements inner => rw [lift, steps, steps_under, steps, liftSteps]

end Chain

theorem take_liftSteps (base : String) (hop : ι → Option ι) (steps : List (Collection ι)) (n : Nat) :
    (liftSteps base hop steps).take n = liftSteps base hop (steps.take n) := by
  cases steps with
  | nil => simp [liftSteps]
  | cons first rest => cases n <;> simp [liftSteps, List.map_take]

theorem exists_of_getElem?_liftSteps {base : String} {hop : ι → Option ι}
    {steps : List (Collection ι)} {i : Nat} {s : Collection ι}
    (h : (liftSteps base hop steps)[i]? = some s) :
    ∃ inner, steps[i]? = some inner ∧ s.path = joinPaths base inner.path := by
  cases steps with
  | nil => simp [liftSteps] at h
  | cons first rest =>
    cases i with
    | zero =>
      cases h
      exact ⟨first, rfl, rfl⟩
    | succ i =>
      rw [liftSteps, List.getElem?_cons_succ, List.getElem?_map, Option.map_eq_some_iff] at h
      obtain ⟨inner, hinner, rfl⟩ := h
      exact ⟨inner, hinner, rfl⟩

/-- Whether steps of two chains with the same path stand at the same place, behind the same steps,
and are the same. -/
def StepsAgree (steps steps' : List (Collection ι)) : Prop :=
  ∀ i j s t, steps[i]? = some s → steps'[j]? = some t → s.path = t.path →
    i = j ∧ steps.take (i + 1) = steps'.take (i + 1)

theorem StepsAgree.lift {steps steps' : List (Collection ι)} (h : StepsAgree steps steps')
    (base : String) (hop : ι → Option ι) :
    StepsAgree (liftSteps base hop steps) (liftSteps base hop steps') := by
  intro i j s t hs ht hpath
  obtain ⟨inner, hinner, hsPath⟩ := exists_of_getElem?_liftSteps hs
  obtain ⟨inner', hinner', htPath⟩ := exists_of_getElem?_liftSteps ht
  rw [hsPath, htPath] at hpath
  obtain ⟨hplace, htake⟩ := h i j inner inner' hinner hinner' (joinPaths_left_cancel hpath)
  refine ⟨hplace, ?_⟩
  rw [take_liftSteps, take_liftSteps, htake]

/-- Behind a collection, steps that agree and have paths of their own still agree. -/
theorem StepsAgree.cons_under {steps steps' : List (Collection ι)} (h : StepsAgree steps steps')
    (hne : ∀ s ∈ steps, s.path ≠ "") (hne' : ∀ s ∈ steps', s.path ≠ "") (collection : Collection ι) :
    StepsAgree (collection :: steps.map (.under collection.path))
      (collection :: steps'.map (.under collection.path)) := by
  -- The path of a later step is that of the collection and more, so it is no path of a first step.
  have hlater : ∀ {steps : List (Collection ι)}, (∀ s ∈ steps, s.path ≠ "") → ∀ {i : Nat}
      {s : Collection ι}, (steps.map (.under collection.path))[i]? = some s →
        ∃ inner, steps[i]? = some inner ∧ s.path = joinPaths collection.path inner.path ∧
          s.path ≠ collection.path := by
    intro steps hne i s hs
    rw [List.getElem?_map, Option.map_eq_some_iff] at hs
    obtain ⟨inner, hinner, rfl⟩ := hs
    refine ⟨inner, hinner, rfl, fun heq => ?_⟩
    exact hne inner (List.mem_of_getElem? hinner) (joinPaths_eq_left_iff.1 heq)
  intro i j s t hs ht hpath
  cases i with
  | zero =>
    cases hs
    cases j with
    | zero => exact ⟨rfl, rfl⟩
    | succ j =>
      obtain ⟨inner, -, -, htPath⟩ := hlater hne' ht
      exact absurd hpath.symm htPath
  | succ i =>
    obtain ⟨inner, hinner, hsPath, hsNe⟩ := hlater hne hs
    cases j with
    | zero =>
      cases ht
      exact absurd hpath hsNe
    | succ j =>
      obtain ⟨inner', hinner', htPath, -⟩ := hlater hne' ht
      rw [hsPath, htPath] at hpath
      obtain ⟨rfl, htake⟩ := h i j inner inner' hinner hinner' (joinPaths_left_cancel hpath)
      refine ⟨rfl, ?_⟩
      rw [List.take_succ_cons, List.take_succ_cons, ← List.map_take, ← List.map_take, htake]

/-! ## Plain schemas. -/

/-- Whether the names of the fields of a type are told apart, are not empty and have no dots, and all
fields are described by what they hold. -/
structure Schema.IsPlain (schema : Schema τ ι) : Prop where
  distinct : ∀ type, ((schema type).map (·.1)).Nodup
  nonempty : ∀ type, ∀ field ∈ schema type, field.1 ≠ ""
  dotless : ∀ type, ∀ field ∈ schema type, '.' ∉ field.1.toList
  described : ∀ type name a, (name, Shape.accessor a) ∉ schema type

namespace Schema

variable {schema : Schema τ ι}

/-- In a plain schema a path that begins with a name tells which field is meant. -/
theorem IsPlain.eq_of_joinPaths (h : schema.IsPlain) {type : τ} {field field' : String × Shape τ ι}
    (hfield : field ∈ schema type) (hfield' : field' ∈ schema type) {inner inner' : String}
    (hpath : joinPaths field.1 inner = joinPaths field'.1 inner') : field = field' := by
  obtain ⟨hname, -⟩ := joinPaths_inj (h.nonempty type _ hfield) (h.nonempty type _ hfield')
    (h.dotless type _ hfield) (h.dotless type _ hfield') hpath
  exact List.inj_on_of_nodup_map (h.distinct type) hfield hfield' hname

end Schema

namespace Route

/-- The field that the way begins with. -/
def first : Route τ ι → String × Shape τ ι
  | leaf name shape => (name, shape)
  | through name shape _ => (name, shape)

variable {schema : Schema τ ι} {route : Route τ ι} {a : Accessor ι}

theorem first_mem {type : τ} {places : List Nat} (h : schema.Reaches type places route) :
    route.first ∈ schema type := by
  cases h with
  | leaf hfield _ => exact List.mem_of_getElem? hfield
  | through hfield _ _ => exact List.mem_of_getElem? hfield

/-- The dotted names of the collections on the way, outermost first. A leaf may be one of them. -/
def collectionPaths : Route τ ι → List String
  | leaf name shape => if shape.isCollection then [name] else []
  | through name shape rest =>
    (if shape.isCollection then [name] else []) ++ rest.collectionPaths.map (joinPaths name)

/-- The paths of all collections begin with the name of the first field. -/
theorem exists_of_mem_collectionPaths {path : String} (h : path ∈ route.collectionPaths) :
    ∃ inner, path = joinPaths route.first.1 inner := by
  have hown : ∀ (name : String) (shape : Shape τ ι),
      path ∈ (if shape.isCollection then [name] else []) → path = joinPaths name "" := by
    intro name shape hpath
    split at hpath
    · rw [List.mem_singleton.1 hpath, joinPaths_empty_right]
    · cases hpath
  cases route with
  | leaf name shape => exact ⟨"", hown name shape h⟩
  | through name shape rest =>
    rcases List.mem_append.1 h with hfirst | hlater
    · exact ⟨"", hown name shape hfirst⟩
    · obtain ⟨inner, -, rfl⟩ := List.mem_map.1 hlater
      exact ⟨inner, rfl⟩

theorem ne_empty_of_mem_collectionPaths (hschema : schema.IsPlain) {type : τ} {places : List Nat}
    (hroute : schema.Reaches type places route) {path : String} (h : path ∈ route.collectionPaths) :
    path ≠ "" := by
  obtain ⟨inner, hinner⟩ := exists_of_mem_collectionPaths h
  rw [hinner, Ne, joinPaths_eq_empty_iff]
  exact fun hempty => hschema.nonempty type _ (first_mem hroute) hempty.1

/-- The collections of the accessor of a route are those on the way. -/
theorem collections_of_accessor? (hschema : schema.IsPlain) {type : τ} {places : List Nat}
    (hroute : schema.Reaches type places route) (ha : route.accessor? = some a) :
    a.chain.collections = route.collectionPaths := by
  induction hroute generalizing a with
  | @leaf type place name shape hfield hshape =>
    cases shape with
    | accessor own =>
      exact absurd (List.mem_of_getElem? hfield) (hschema.described type name own)
    | _ => cases ha <;> rfl
  | @through type inner place places name shape rest hfield hshape hrest ih =>
    obtain ⟨_, wrap, b, hwrap, hb, rfl⟩ := accessor?_through_eq_some_iff.1 ha
    rw [collectionPaths, ← ih hb]
    rcases Shape.nested?_cases hwrap with ⟨hop, hcollection, rfl⟩ | ⟨elements, hcollection, -, rfl⟩
    · rw [hcollection]
      exact Chain.collections_lift name hop b.chain
    · rw [hcollection, ← Chain.collections_under]
      rfl

theorem path_mem_collectionPaths (hschema : schema.IsPlain) {type : τ} {places : List Nat}
    (hroute : schema.Reaches type places route) (ha : route.accessor? = some a)
    {s : Collection ι} (hs : s ∈ a.chain.steps) : s.path ∈ route.collectionPaths := by
  rw [← collections_of_accessor? hschema hroute ha, ← Chain.map_path_steps]
  exact List.mem_map_of_mem hs

/-- The routes of two steps with the same path begin with the same field. -/
theorem first_eq_of_path_eq (hschema : schema.IsPlain) {type : τ} {places places' : List Nat}
    {route' : Route τ ι} (hroute : schema.Reaches type places route)
    (hroute' : schema.Reaches type places' route') {a' : Accessor ι}
    (ha : route.accessor? = some a) (ha' : route'.accessor? = some a') {s t : Collection ι}
    (hs : s ∈ a.chain.steps) (ht : t ∈ a'.chain.steps) (hpath : s.path = t.path) :
    route.first = route'.first := by
  obtain ⟨inner, hinner⟩ :=
    exists_of_mem_collectionPaths (path_mem_collectionPaths hschema hroute ha hs)
  obtain ⟨inner', hinner'⟩ :=
    exists_of_mem_collectionPaths (path_mem_collectionPaths hschema hroute' ha' ht)
  rw [hinner, hinner'] at hpath
  exact hschema.eq_of_joinPaths (first_mem hroute) (first_mem hroute') hpath

/-- In a plain schema the steps of two routes from one type agree. -/
theorem stepsAgree (hschema : schema.IsPlain) {type : τ} {places places' : List Nat}
    {route' : Route τ ι} (hroute : schema.Reaches type places route)
    (hroute' : schema.Reaches type places' route') {a' : Accessor ι}
    (ha : route.accessor? = some a) (ha' : route'.accessor? = some a') :
    StepsAgree a.chain.steps a'.chain.steps := by
  induction hroute generalizing places' route' a a' with
  | @leaf type place name shape hfield hshape =>
    intro i j s t hs ht hpath
    have hfirst := first_eq_of_path_eq hschema (.leaf hfield hshape) hroute' ha ha'
      (List.mem_of_getElem? hs) (List.mem_of_getElem? ht) hpath
    cases hroute' with
    | leaf hfield' hshape' =>
      -- Both routes are the same field, with a single step at most.
      cases hfirst
      cases ha.symm.trans ha'
      have hlength : a.chain.steps.length ≤ 1 := by
        have hcollections := collections_of_accessor? hschema (.leaf hfield hshape) ha
        rw [← List.length_map (·.path), Chain.map_path_steps, hcollections, collectionPaths]
        split <;> simp
      have hi := (List.getElem?_eq_some_iff.1 hs).1
      have hj := (List.getElem?_eq_some_iff.1 ht).1
      have hplace : i = j := by omega
      exact ⟨hplace, by rw [hplace]⟩
    | through hfield' hshape' _ =>
      cases hfirst
      rw [hshape] at hshape'
      cases hshape'
  | @through type inner place places name shape rest hfield hshape hrest ih =>
    intro i j s t hs ht hpath
    have hfirst := first_eq_of_path_eq hschema (.through hfield hshape hrest) hroute' ha ha'
      (List.mem_of_getElem? hs) (List.mem_of_getElem? ht) hpath
    cases hroute' with
    | leaf hfield' hshape' =>
      cases hfirst
      rw [hshape] at hshape'
      cases hshape'
    | through hfield' hshape' hrest' =>
      cases hfirst
      cases hshape.symm.trans hshape'
      obtain ⟨_, wrap, b, hwrap, hb, rfl⟩ := accessor?_through_eq_some_iff.1 ha
      obtain ⟨_, wrap', b', hwrap', hb', rfl⟩ := accessor?_through_eq_some_iff.1 ha'
      cases hwrap.symm.trans hwrap'
      have hagree := ih hrest' hb hb'
      -- Either field puts the same in front of the steps on both sides.
      rcases Shape.nested?_cases hwrap with ⟨hop, -, rfl⟩ | ⟨elements, -, -, rfl⟩
      · have hlift := hagree.lift name hop
        rw [← Chain.steps_lift, ← Chain.steps_lift] at hlift
        exact hlift i j s t hs ht hpath
      · have hne : ∀ s ∈ b.chain.steps, s.path ≠ "" := fun s hs =>
          ne_empty_of_mem_collectionPaths hschema hrest
            (path_mem_collectionPaths hschema hrest hb hs)
        have hne' : ∀ s ∈ b'.chain.steps, s.path ≠ "" := fun s hs =>
          ne_empty_of_mem_collectionPaths hschema hrest'
            (path_mem_collectionPaths hschema hrest' hb' hs)
        have heach := hagree.cons_under hne hne' ⟨name, elements⟩
        rw [← Chain.steps_under, ← Chain.steps_under] at heach
        exact heach i j s t hs ht hpath

end Route

namespace Schema

/-- If a step of one expanded field has the same path as a step of another one, both stand at the
same place, and they and all steps before them are the same collections. -/
theorem expand_identifies_collections (schema : Schema τ ι) (hschema : schema.IsPlain) {depth : Nat}
    {type : τ} {field field' : String} {a a' : Accessor ι}
    (ha : (field, a) ∈ schema.expand depth type) (ha' : (field', a') ∈ schema.expand depth type)
    {i j : Nat} {s t : Collection ι}
    (hs : a.chain.steps[i]? = some s) (ht : a'.chain.steps[j]? = some t) (hpath : s.path = t.path) :
    i = j ∧ a.chain.steps.take (i + 1) = a'.chain.steps.take (i + 1) := by
  obtain ⟨places, route, hroute, -, haccessor⟩ := exists_route_of_mem_expand ha
  obtain ⟨places', route', hroute', -, haccessor'⟩ := exists_route_of_mem_expand ha'
  exact Route.stepsAgree hschema hroute hroute' haccessor haccessor' i j s t hs ht hpath

/-- Numbers with a leaf that tells whether they are even. -/
def plainEven : Shape Unit Nat := .scalar .bool false evenValue

theorem isPlain_numberSchema : (numberSchema plainEven).IsPlain where
  distinct _ := by simp [numberSchema]
  nonempty := names_ne_empty_numberSchema plainEven
  dotless _ := by simp [numberSchema]
  described _ := by simp [numberSchema, plainEven]

theorem expand_identifies_collections_below :
    (numberSchema plainEven).IsPlain ∧
      ∃ even inner, ("below.even", even) ∈ (numberSchema plainEven).expand 2 () ∧
        ("below.below.even", inner) ∈ (numberSchema plainEven).expand 2 () ∧
        even.chain.collections = ["below"] ∧
        inner.chain.collections = ["below", "below.below"] ∧
        even.chain.steps.take 1 = inner.chain.steps.take 1 := by
  let entries := (numberSchema plainEven).expand 2 ()
  obtain ⟨even, inner, heven, hinner, hpaths, hpaths', hstep, hstep'⟩ : ∃ even inner,
      entries[4]? = some ("below.even", even) ∧ entries[6]? = some ("below.below.even", inner) ∧
        even.chain.collections = ["below"] ∧ inner.chain.collections = ["below", "below.below"] ∧
        even.chain.steps[0]? = some ⟨"below", fun n => some (List.range n)⟩ ∧
        inner.chain.steps[0]? = some ⟨"below", fun n => some (List.range n)⟩ :=
    ⟨_, _, rfl, rfl, rfl, rfl, rfl, rfl⟩
  have hmem := List.mem_of_getElem? heven
  have hmem' := List.mem_of_getElem? hinner
  obtain ⟨-, hsame⟩ := expand_identifies_collections (numberSchema plainEven) isPlain_numberSchema
    hmem hmem' hstep hstep' rfl
  exact ⟨isPlain_numberSchema, even, inner, hmem, hmem', hpaths, hpaths', hsame⟩

end Schema

/-! ## Mappers that are filled from a schema. -/

namespace Mapper

variable {schema : Schema τ ι} {type : τ} {m : Mapper ι}

/-- Whether the fields of the mapper are those of a schema for a type, added by `autoPopulate` down
to some depths. -/
def IsPopulated (m : Mapper ι) (schema : Schema τ ι) (type : τ) : Prop :=
  ∃ (empty : Mapper ι) (depths : List Nat), empty.maps = [] ∧
    m = depths.foldl (fun m depth => m.autoPopulate schema type depth) empty

/-- What is added are fields with single accessors. -/
theorem mem_maps_of_addMissing {fields : List (String × Accessor ι)} {map : FieldMap ι}
    (h : map ∈ (m.addMissing fields).maps) :
    map ∈ m.maps ∨ ∃ field ∈ fields, map = { name := field.1, mapping := .single field.2 } := by
  induction fields generalizing m with
  | nil => exact .inl h
  | cons field fields ih =>
    rcases ih h with hadded | ⟨later, hlater, hmap⟩
    · -- The first field is there already, or is added at the end.
      cases hfield : m.hasField field.1 with
      | true =>
        simp only [hfield, if_true] at hadded
        exact .inl hadded
      | false =>
        simp only [hfield, Bool.false_eq_true, if_false] at hadded
        rcases List.mem_append.1 hadded with hold | hnew
        · exact .inl hold
        · exact .inr ⟨field, List.mem_cons_self, List.mem_singleton.1 hnew⟩
    · exact .inr ⟨later, List.mem_cons_of_mem _ hlater, hmap⟩

/-- The fields of such a mapper are those that the schema expands to. -/
theorem IsPopulated.exists_mem_expand (h : m.IsPopulated schema type) {map : FieldMap ι}
    (hmap : map ∈ m.maps) :
    ∃ depth, ∃ field ∈ schema.expand depth type,
      map = { name := field.1, mapping := .single field.2 } := by
  obtain ⟨empty, depths, hempty, rfl⟩ := h
  have hadded : map ∈ empty.maps ∨ ∃ depth, ∃ field ∈ schema.expand depth type,
      map = { name := field.1, mapping := .single field.2 } := by
    clear hempty
    induction depths generalizing empty with
    | nil => exact .inl hmap
    | cons depth depths ih =>
      rcases ih _ hmap with hfirst | hlater
      · rcases mem_maps_of_addMissing hfirst with hold | hnew
        · exact .inl hold
        · exact .inr ⟨depth, hnew⟩
      · exact .inr hlater
  rw [hempty] at hadded
  exact hadded.resolve_left (List.not_mem_nil)

/-- The accessors of such a mapper are those of routes of the schema, under their dotted names. -/
theorem IsPopulated.exists_route (h : m.IsPopulated schema type) {map : FieldMap ι}
    (hmap : map ∈ m.maps) {index : Option String} {accessor : Accessor ι}
    (hoffers : map.Offers index accessor) :
    ∃ places route, schema.Reaches type places route ∧ map.name = route.field ∧
      route.accessor? = some accessor := by
  obtain ⟨depth, field, hfield, rfl⟩ := h.exists_mem_expand hmap
  obtain ⟨places, route, hroute, hname, haccessor⟩ := Schema.exists_route_of_mem_expand hfield
  cases index with
  | none =>
    cases hoffers
    exact ⟨places, route, hroute, hname, haccessor⟩
  | some key => cases hoffers

/-- Conditions on fields of a plain schema may be merged by the paths of their collections. -/
theorem isConsistent_of_isPopulated (hschema : schema.IsPlain) (h : m.IsPopulated schema type) :
    m.IsConsistent := by
  intro s t huses huses' hpath item element
  obtain ⟨map, hmap, index, a, hoffers, hs⟩ := huses
  obtain ⟨map', hmap', index', a', hoffers', ht⟩ := huses'
  obtain ⟨places, route, hroute, -, ha⟩ := h.exists_route hmap hoffers
  obtain ⟨places', route', hroute', -, ha'⟩ := h.exists_route hmap' hoffers'
  obtain ⟨i, hi⟩ := List.mem_iff_getElem?.1 hs
  obtain ⟨j, hj⟩ := List.mem_iff_getElem?.1 ht
  -- Both are the same collection, and not just two with the same elements.
  obtain ⟨rfl, htake⟩ := Route.stepsAgree hschema hroute hroute' ha ha' i j s t hi hj hpath
  have hsame : s = t := by
    rw [← List.getElem?_take_of_lt (Nat.lt_succ_self i), htake,
      List.getElem?_take_of_lt (Nat.lt_succ_self i), hj] at hi
    exact (Option.some.inj hi).symm
  rw [hsame]

end Mapper

end FilterQuery
