import FilterQuery.Proofs.Merging

/-!
# Elements by the paths of their collections

In a consistent mapper the path of a collection tells which elements it has. `m.Leads paths item
element` says that the collections of the given paths lead from an item to an element, whatever
accessors they belong to. Ways and open conditions only matter by their paths.

## Key results

- `contains_iff_mem`: the elements of a collection are those of its path
- `holds_iff_leads`: an open condition holds iff its paths lead to an element that satisfies the
  query inside
-/

namespace FilterQuery

variable {ι Q : Type}

/-! ## Paths of a mapper. -/

/-- Whether the item has the element in a collection of the given path. -/
def Mapper.Contains (m : Mapper ι) (path : String) (item element : ι) : Prop :=
  ∃ s, m.Uses s ∧ s.path = path ∧ element ∈ s.members item

/-- Whether the collections of the given paths, outermost first, lead from the item to the
element. -/
def Mapper.Leads (m : Mapper ι) : List String → ι → ι → Prop
  | [], item, element => element = item
  | path :: paths, item, element => ∃ inner, m.Contains path item inner ∧ m.Leads paths inner element

variable {m : Mapper ι}

/-- A collection of a consistent mapper has the elements of its path. -/
theorem Mapper.contains_iff_mem (hm : m.IsConsistent) {s : Collection ι} (hs : m.Uses s)
    {item element : ι} : m.Contains s.path item element ↔ element ∈ s.members item := by
  constructor
  · intro h
    obtain ⟨t, ht, hpath, helement⟩ := h
    exact (hm t s ht hs hpath item element).1 helement
  · intro helement
    exact ⟨s, hs, rfl, helement⟩

/-- What is asked of an element that several collections lead to is asked of one that the inner
collections lead to from an element of the outermost one. -/
theorem Mapper.exists_leads_cons {path : String} {paths : List String} {item : ι}
    {P : ι → Prop} :
    (∃ element, m.Leads (path :: paths) item element ∧ P element) ↔
      ∃ inner, m.Contains path item inner ∧ ∃ element, m.Leads paths inner element ∧ P element := by
  simp only [Leads]
  constructor
  · intro h
    obtain ⟨element, ⟨inner, hinner, hleads⟩, hP⟩ := h
    exact ⟨inner, hinner, element, hleads, hP⟩
  · intro h
    obtain ⟨inner, hinner, element, hleads, hP⟩ := h
    exact ⟨element, ⟨inner, hinner, hleads⟩, hP⟩

/-! ## Ways. -/

/-- A way reaches the values at the elements that its collections lead to. -/
theorem Chain.mem_reach_iff (hm : m.IsConsistent) {chain : Chain ι}
    (hchain : ∀ s ∈ chain.steps, m.Uses s) {item : ι} {v : Value} :
    v ∈ chain.reach item ↔
      ∃ element, m.Leads chain.collections item element ∧ v = chain.readLast element := by
  induction chain generalizing item with
  | value read => simp [reach, collections, Mapper.Leads, readLast]
  | each path elements inner ih =>
    have hhead : m.Uses ⟨path, elements⟩ := hchain _ (by simp [steps])
    have hinner : ∀ s ∈ inner.steps, m.Uses s := fun s hs => hchain s (by simp [steps, hs])
    have hmem : ∀ element, m.Contains path item element ↔ element ∈ (elements item).getD [] :=
      fun element => Mapper.contains_iff_mem hm hhead
    rw [collections, Mapper.exists_leads_cons]
    simp only [reach, List.mem_flatMap, ih hinner, readLast, hmem]

/-! ## Open conditions. -/

/-- The paths of the open conditions of a part, outermost first. -/
def Part.paths (part : Part ι Q) : List String := part.collections.map (·.path)

/-- The query inside all open conditions of a part. -/
def Part.core : Part ι Q → Built Q
  | .closed built => built
  | .nested _ inner => inner.core

/-- A part without its outermost open conditions. -/
def Part.drop : Nat → Part ι Q → Part ι Q
  | n + 1, .nested _ inner => inner.drop n
  | _, part => part

@[simp] theorem Part.paths_closed (built : Built Q) : (Part.closed built : Part ι Q).paths = [] :=
  rfl

@[simp] theorem Part.paths_nested (collection : Collection ι) (inner : Part ι Q) :
    (Part.nested collection inner).paths = collection.path :: inner.paths :=
  rfl

@[simp] theorem Part.drop_zero (part : Part ι Q) : part.drop 0 = part := by
  cases part <;> rfl

@[simp] theorem Part.core_closed (built : Built Q) : (Part.closed built : Part ι Q).core = built :=
  rfl

theorem Part.core_drop (n : Nat) (part : Part ι Q) : (part.drop n).core = part.core := by
  induction part generalizing n with
  | closed built => cases n <;> rfl
  | nested collection inner ih =>
    cases n with
    | zero => rfl
    | succ n => exact ih n

theorem Part.paths_drop (n : Nat) (part : Part ι Q) : (part.drop n).paths = part.paths.drop n := by
  induction part generalizing n with
  | closed built => cases n <;> rfl
  | nested collection inner ih =>
    cases n with
    | zero => rfl
    | succ n => exact ih n

/-- Without all its open conditions, a part is the query inside. -/
theorem Part.drop_length (part : Part ι Q) : part.drop part.paths.length = .closed part.core := by
  induction part with
  | closed built => rfl
  | nested collection inner ih => exact ih

theorem Part.IsFrom.drop {part : Part ι Q} (h : part.IsFrom m) (n : Nat) :
    (part.drop n).IsFrom m := by
  induction part generalizing n with
  | closed built => cases n <;> exact h
  | nested collection inner ih =>
    cases n with
    | zero => exact h
    | succ n => exact ih h.inner n

/-- An open condition holds iff its paths lead to an element that satisfies the query inside. -/
theorem Part.holds_iff_leads (hm : m.IsConsistent) {part : Part ι (ι → Bool)} (hpart : part.IsFrom m)
    {item : ι} :
    part.Holds item ↔
      ∃ element, m.Leads part.paths item element ∧ part.core.query element = true := by
  induction part generalizing item with
  | closed built => simp [Holds, Mapper.Leads, core]
  | nested collection inner ih =>
    rw [Part.paths_nested, Mapper.exists_leads_cons]
    simp only [Holds, core, ih hpart.inner, Mapper.contains_iff_mem hm hpart.head]

end FilterQuery
