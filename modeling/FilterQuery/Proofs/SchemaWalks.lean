import FilterQuery.Proofs.SchemaRoutes

/-!
# What the fields of a schema read

`route.walk item` are the values that are found on the way from an item to a leaf field: records are
entered, and collections are gone through from the first element to the last. The accessor of the
field is put together from the leaf outwards instead, by lifting it under records and putting it
behind collections. It reaches the same values.

## Key results

- `reach_of_accessor?`: the accessor of a route reaches what is found on the way
- `expand_lists_routes`: which fields a type is expanded to, in which order, and what they read
-/

namespace FilterQuery

variable {τ ι : Type}

/-! ## What the shape of a field tells. -/

namespace Shape

/-- The kind of the values of a leaf. -/
def kind? : Shape τ ι → Option FieldKind
  | scalar kind _ _ | scalars kind _ _ _ | optionalScalars kind _ _ _ => some kind
  | accessor a => some a.kind
  | _ => none

/-- Whether a value may be missing on account of the field: a value or an element of a leaf may be
missing, or the record that the field holds. -/
def isNullable : Shape τ ι → Bool
  | scalar _ nullable _ | scalars _ nullable _ _ | optionalScalars _ nullable _ _ => nullable
  | accessor a => a.nullable
  | optionalRecord _ _ => true
  | _ => false

/-- Whether the field is a collection, or is read through one. -/
def isCollection : Shape τ ι → Bool
  | scalars _ _ _ _ | optionalScalars _ _ _ _ | records _ _ | optionalRecords _ _ => true
  | accessor a => a.isNested
  | _ => false

/-- The values of a leaf in a record, in order. An absent collection has none. -/
def values : Shape τ ι → ι → List Value
  | scalar _ _ read, item => [read item]
  | accessor a, item => a.chain.reach item
  | scalars _ _ elements read, item => (elements item).map read
  | optionalScalars _ _ elements read, item =>
    match elements item with
    | some elements => elements.map read
    | none => []
  | _, _ => []

/-- A field that holds records either leads from one record to another one, which may be missing if
the field is nullable, or to the elements of a collection. -/
theorem nested?_cases {name : String} {shape : Shape τ ι} {inner : τ}
    {wrap : Accessor ι → Accessor ι} (h : shape.nested? name = some (inner, wrap)) :
    (∃ hop, shape.isCollection = false ∧ wrap = fun a => a.lift name hop shape.isNullable) ∨
      ∃ elements, shape.isCollection = true ∧ shape.isNullable = false ∧
        wrap = .each name elements := by
  cases shape with
  | record hop type =>
    cases h
    exact .inl ⟨_, rfl, rfl⟩
  | optionalRecord hop type =>
    cases h
    exact .inl ⟨_, rfl, rfl⟩
  | records elements type =>
    cases h
    exact .inr ⟨_, rfl, rfl, rfl⟩
  | optionalRecords elements type =>
    cases h
    exact .inr ⟨_, rfl, rfl, rfl⟩
  | _ => cases h

end Shape

namespace Route

/-! ## What is found on the way. -/

/-- The kind of the values of the leaf. -/
def kind? : Route τ ι → Option FieldKind
  | leaf _ shape => shape.kind?
  | through _ _ rest => rest.kind?

/-- Whether the values of the leaf may be missing, or a record on the way to it. -/
def isNullable : Route τ ι → Bool
  | leaf _ shape => shape.isNullable
  | through _ shape rest => shape.isNullable || rest.isNullable

/-- Whether there is a collection on the way, the leaf included. -/
def isNested : Route τ ι → Bool
  | leaf _ shape => shape.isCollection
  | through _ shape rest => shape.isCollection || rest.isNested

/-- The values that are found on the way from an item, in order. -/
def walk : Route τ ι → ι → List Value
  | leaf _ shape, item => shape.values item
  | through _ (.record hop _) rest, item => rest.walk (hop item)
  | through _ (.optionalRecord hop _) rest, item =>
    match hop item with
    | some inner => rest.walk inner
    -- Without the record there is one value, which is missing, unless a collection is to follow.
    | none => if rest.isNested then [] else [.absent]
  | through _ (.records elements _) rest, item => (elements item).flatMap rest.walk
  | through _ (.optionalRecords elements _) rest, item =>
    match elements item with
    | some elements => elements.flatMap rest.walk
    | none => []
  | through _ _ _, _ => []

/-- Whether the route is that of a field with the given name and accessor: the accessor has the kind
of the leaf, may be missing what may be missing on the way, and reaches what is found there. -/
structure IsReadBy (route : Route τ ι) (field : String) (a : Accessor ι) : Prop where
  field_eq : field = route.field
  kind : route.kind? = some a.kind
  nullable : a.nullable = route.isNullable
  reach : ∀ item, a.chain.reach item = route.walk item

variable {route : Route τ ι} {a : Accessor ι}

theorem kind?_of_accessor? (h : route.accessor? = some a) : route.kind? = some a.kind := by
  induction route generalizing a with
  | leaf name shape =>
    cases shape <;> cases h <;> rfl
  | through name shape rest ih =>
    obtain ⟨inner, wrap, b, hshape, hb, rfl⟩ := accessor?_through_eq_some_iff.1 h
    rw [kind?, ih hb]
    rcases Shape.nested?_cases hshape with ⟨hop, -, rfl⟩ | ⟨elements, -, -, rfl⟩ <;> rfl

theorem nullable_of_accessor? (h : route.accessor? = some a) : a.nullable = route.isNullable := by
  induction route generalizing a with
  | leaf name shape =>
    cases shape <;> cases h <;> rfl
  | through name shape rest ih =>
    obtain ⟨inner, wrap, b, hshape, hb, rfl⟩ := accessor?_through_eq_some_iff.1 h
    rw [isNullable, ← ih hb]
    rcases Shape.nested?_cases hshape with ⟨hop, -, rfl⟩ | ⟨elements, -, hnullable, rfl⟩
    · exact Bool.or_comm b.nullable shape.isNullable
    · rw [hnullable, Bool.false_or]
      rfl

theorem isNested_of_accessor? (h : route.accessor? = some a) : a.isNested = route.isNested := by
  induction route generalizing a with
  | leaf name shape =>
    cases shape <;> cases h <;> rfl
  | through name shape rest ih =>
    obtain ⟨inner, wrap, b, hshape, hb, rfl⟩ := accessor?_through_eq_some_iff.1 h
    rw [isNested, ← ih hb]
    rcases Shape.nested?_cases hshape with ⟨hop, hcollection, rfl⟩ | ⟨elements, hcollection, -, rfl⟩
    · rw [hcollection, Bool.false_or]
      exact Chain.isNested_lift name hop b.chain
    · rw [hcollection, Bool.true_or]
      rfl

/-- The accessor of a leaf reaches its values. -/
theorem reach_of_leaf? {name : String} {shape : Shape τ ι} (h : shape.leaf? name = some a)
    (item : ι) : a.chain.reach item = shape.values item := by
  cases shape with
  | scalar kind nullable read =>
    cases h
    rfl
  | accessor own =>
    cases h
    rfl
  | scalars kind nullable elements read =>
    cases h
    rw [Shape.values, List.map_eq_flatMap]
    rfl
  | optionalScalars kind nullable elements read =>
    cases h
    simp only [Accessor.each, Accessor.computed, Chain.under, Chain.reach, Shape.values]
    cases elements item with
    | none => rfl
    | some elements => exact List.map_eq_flatMap.symm
  | _ => cases h

/-- The accessor of a route reaches what is found on the way. -/
theorem reach_of_accessor? (h : route.accessor? = some a) (item : ι) :
    a.chain.reach item = route.walk item := by
  induction route generalizing a item with
  | leaf name shape => exact reach_of_leaf? h item
  | through name shape rest ih =>
    obtain ⟨inner, wrap, b, hshape, hb, rfl⟩ := accessor?_through_eq_some_iff.1 h
    cases shape with
    | record hop type =>
      cases hshape
      let present : ι → Option ι := fun item => some (hop item)
      have hhop : present item = some (hop item) := rfl
      rw [walk, ← ih hb]
      exact Chain.reach_lift name hhop b.chain
    | optionalRecord hop type =>
      cases hshape
      cases hhop : hop item with
      | some inside =>
        simp only [walk, hhop, ← ih hb]
        exact Chain.reach_lift name hhop b.chain
      | none =>
        simp only [walk, hhop, ← isNested_of_accessor? hb]
        exact Chain.reach_lift_of_none name hhop b.chain
    | records elements type =>
      cases hshape
      have hreach : (b.chain.under name).reach = rest.walk := by
        funext element
        rw [Chain.reach_under, ih hb]
      rw [walk, ← hreach]
      rfl
    | optionalRecords elements type =>
      cases hshape
      have hreach : (b.chain.under name).reach = rest.walk := by
        funext element
        rw [Chain.reach_under, ih hb]
      rw [walk, ← hreach]
      cases helements : elements item <;> simp [Accessor.each, Chain.reach, helements]
    | _ => cases hshape

theorem isReadBy_of_accessor? (h : route.accessor? = some a) : route.IsReadBy route.field a where
  field_eq := rfl
  kind := kind?_of_accessor? h
  nullable := nullable_of_accessor? h
  reach := reach_of_accessor? h

end Route

namespace Schema

/-- A type is expanded to the leaf fields that its description leads to through at most `depth`
fields that hold records, in the order of the description, under their dotted names. Each is read
through an accessor that reaches what is found on the way to the leaf. -/
theorem expand_lists_routes (schema : Schema τ ι) (depth : Nat) (type : τ) :
    (∀ places route, (places, route) ∈ schema.routes depth type ↔
      schema.Reaches type places route ∧ route.depth ≤ depth) ∧
    ((schema.routes depth type).Pairwise fun r s => r.1 < s.1) ∧
    List.Forall₂ (fun entry r => r.2.IsReadBy entry.1 entry.2) (schema.expand depth type)
      (schema.routes depth type) := by
  refine ⟨fun places route => mem_routes_iff, pairwise_routes depth type, ?_⟩
  refine (forall₂_expand_routes depth type).imp fun entry r hentry => ?_
  obtain ⟨hfield, haccessor⟩ := hentry
  rw [hfield]
  exact Route.isReadBy_of_accessor? haccessor

/-- The number before a number. -/
def previous? : Nat → Option Nat
  | 0 => none
  | n + 1 => some n

/-- Numbers, each with a leaf of the given shape that tells whether it is even, with the number
before it and with all numbers below it. -/
def numberSchema (even : Shape Unit Nat) : Schema Unit Nat := fun _ =>
  [("even", even), ("previous", .optionalRecord previous? ()), ("below", .records List.range ())]

/-- Whether the number is even, as a value. -/
def evenValue (n : Nat) : Value := .bool (n % 2 == 0)

/-- There is a number before each number below another one, except for zero. -/
example : (Route.through "below" (.records List.range ())
    (.through "previous" (.optionalRecord previous? ())
      (.leaf "even" (.scalar .bool false evenValue))) : Route Unit Nat).walk 3 =
        [.absent, .bool true, .bool false] := by
  rfl

end Schema

end FilterQuery
