import FilterQuery.Proofs.Elements

/-!
# Shared elements

Inside parentheses, two open conditions share the elements of the collections with which both of
their lists of paths begin, and have elements of their own from there on. If all comparisons of a
group go through the same collections, it is one condition on one element of the innermost of them.

## Key results

- `exists_combine_grouped`: what a conjunction of two open conditions shares
- `exists_yields_of_follows`: comparisons through the same collections become one condition
- `accepts_group_iff`: such a group asks for one element
- `accepts_pair_iff`: two comparisons share the elements of their common collections
-/

namespace FilterQuery

variable {ι : Type}

/-! ## Lists with the same beginning. -/

/-- The longest list with which both lists begin. -/
def commonPrefix : List String → List String → List String
  | x :: xs, y :: ys => if x = y then x :: commonPrefix xs ys else []
  | _, _ => []

/-- Lists with which both lists begin are those with which their longest one begins. -/
theorem prefix_commonPrefix_iff {zs xs ys : List String} :
    zs <+: commonPrefix xs ys ↔ zs <+: xs ∧ zs <+: ys := by
  induction xs generalizing ys zs with
  | nil =>
    simp only [commonPrefix, List.prefix_nil]
    constructor
    · rintro rfl
      exact ⟨rfl, List.nil_prefix⟩
    · exact fun h => h.1
  | cons x xs ih =>
    cases ys with
    | nil =>
      simp only [commonPrefix, List.prefix_nil]
      constructor
      · rintro rfl
        exact ⟨List.nil_prefix, rfl⟩
      · exact fun h => h.2
    | cons y ys =>
      cases zs with
      | nil => simp
      | cons z zs =>
        by_cases hxy : x = y
        · subst hxy
          simp only [commonPrefix, if_true, List.cons_prefix_cons, ih]
          constructor
          · rintro ⟨rfl, hxs, hys⟩
            exact ⟨⟨rfl, hxs⟩, rfl, hys⟩
          · rintro ⟨⟨hz, hxs⟩, -, hys⟩
            exact ⟨hz, hxs, hys⟩
        · rw [commonPrefix, if_neg hxy]
          simp only [List.prefix_nil, List.cons_prefix_cons, reduceCtorEq, false_iff]
          rintro ⟨⟨rfl, -⟩, rfl, -⟩
          exact hxy rfl

theorem commonPrefix_self (xs : List String) : commonPrefix xs xs = xs := by
  induction xs with
  | nil => rfl
  | cons x xs ih => simp [commonPrefix, ih]

theorem commonPrefix_prefix_left (xs ys : List String) : commonPrefix xs ys <+: xs :=
  (prefix_commonPrefix_iff.1 List.prefix_rfl).1

theorem commonPrefix_prefix_right (xs ys : List String) : commonPrefix xs ys <+: ys :=
  (prefix_commonPrefix_iff.1 List.prefix_rfl).2

theorem commonPrefix_of_prefix {xs ys : List String} (h : xs <+: ys) : commonPrefix xs ys = xs := by
  have hle : xs <+: commonPrefix xs ys := prefix_commonPrefix_iff.2 ⟨List.prefix_rfl, h⟩
  exact (commonPrefix_prefix_left xs ys).eq_of_length_le hle.length_le

theorem commonPrefix_comm (xs ys : List String) : commonPrefix xs ys = commonPrefix ys xs := by
  induction xs generalizing ys with
  | nil => cases ys <;> rfl
  | cons x xs ih =>
    cases ys with
    | nil => rfl
    | cons y ys =>
      by_cases h : x = y
      · subst h
        simp only [commonPrefix, if_true, ih]
      · simp only [commonPrefix, if_neg h, if_neg (Ne.symm h)]

/-! ## Comparisons through given collections. -/

/-- The comparison as an expression. -/
def Comparison.expr (q : Comparison) : Expr :=
  .comparison (.field q.name q.index) q.op (.value q.raw q.ignoreCase)

namespace Compiler

/-- Whether the literal of the comparison fits: it converts to a value, or it is not one that has to
be converted. -/
def Fits (c : Compiler ι) (map : FieldMap ι) (accessor : Accessor ι) (q : Comparison) : Prop :=
  match q.op with
  | .custom symbol => c.operators.contains symbol = true
  | op =>
    q.isBare = true ∨ q.isWithKeyword c.mapper.config = true ∨
      (Condition.literal? c.mapper.config map.convertor accessor.kind op q.raw).isSome = true

/-- Whether the comparison is one of a mapped field with the accessor and no other. -/
structure Compares (c : Compiler ι) (q : Comparison) (map : FieldMap ι) (accessor : Accessor ι) :
    Prop where
  mapped : c.mapper.find? q.name = some map
  only : map.accessors q.index = .ok (accessor, [])

/-- Whether all comparisons of the expression are ones of a mapped field with a single accessor,
which goes through the collections of exactly the given paths, and with a literal that fits. -/
inductive Follows (c : Compiler ι) (paths : List String) : Expr → Prop
  | group {inner : Expr} (h : Follows c paths inner) : Follows c paths (.group inner)
  | logical {left right : Expr} {conjunction : Conjunction} (hleft : Follows c paths left)
      (hright : Follows c paths right) : Follows c paths (.logical left conjunction right)
  | comparison {name : String} {index : Option String} {op : Operator} {raw : String}
      {ignoreCase : Bool} {map : FieldMap ι} {accessor : Accessor ι}
      (h : c.Compares ⟨name, index, op, raw, ignoreCase⟩ map accessor)
      (hfits : c.Fits map accessor ⟨name, index, op, raw, ignoreCase⟩)
      (hpaths : accessor.chain.collections = paths) :
      Follows c paths (.comparison (.field name index) op (.value raw ignoreCase))

/-- What an expression says of one element: all comparisons are about values that are read from
it. -/
def MeansAt (c : Compiler ι) : Expr → ι → Prop
  | .group inner, element => c.MeansAt inner element
  | .logical left conjunction right, element =>
    conjunction.Joins (c.MeansAt left element) (c.MeansAt right element)
  | .comparison (.field name index) op (.value raw ignoreCase), element =>
    ∃ map accessor, c.Compares ⟨name, index, op, raw, ignoreCase⟩ map accessor ∧
      c.Satisfies map accessor ⟨name, index, op, raw, ignoreCase⟩ (accessor.chain.readLast element)
  | _, _ => False

/-- What an expression says of some element that the paths lead to. -/
def MeansAlong (c : Compiler ι) (paths : List String) (e : Expr) (item : ι) : Prop :=
  ∃ element, c.mapper.Leads paths item element ∧ c.MeansAt e element

variable {c : Compiler ι}

/-! ## Open conditions in parentheses. -/

/-- A conjunction in parentheses is open on the collections that both of its sides begin with. At an
element of the innermost of them, it joins what is left of its sides. -/
theorem exists_combine_grouped (conjunction : Conjunction) (l r : Part ι (ι → Bool)) :
    ∃ part, c.combine (predicateBackend ι) conjunction true l r = .ok part ∧
      part.paths = commonPrefix l.paths r.paths ∧
      ∀ element, part.core.query element = true ↔
        conjunction.Joins ((l.drop part.paths.length).Holds element)
          ((r.drop part.paths.length).Holds element) := by
  induction l generalizing r with
  | closed built =>
    obtain ⟨joined, hjoin, hholds⟩ := c.exists_joinFinished conjunction (.closed built) r
    exact ⟨.closed joined, by rw [combine_closed_left, hjoin], rfl, by simpa using hholds⟩
  | nested s l ih =>
    cases r with
    | closed built =>
      obtain ⟨joined, hjoin, hholds⟩ := c.exists_joinFinished conjunction (.nested s l)
        (.closed built)
      exact ⟨.closed joined, by rw [combine_closed_right, hjoin], rfl, by simpa using hholds⟩
    | nested t r =>
      by_cases hpath : s.path = t.path
      -- The outermost collection is shared, and the inner parts go on.
      · obtain ⟨part, hpart, hpaths, hholds⟩ := ih r
        refine ⟨.nested s part, ?_, ?_, hholds⟩
        · have hmerge : (true && (predicateBackend ι).merges s t conjunction) = true := by
            simpa [predicateBackend] using hpath
          rw [combine, if_pos hmerge, hpart]
          rfl
        · simp [commonPrefix, hpath, hpaths]
      -- The first collections differ, so nothing is shared.
      · obtain ⟨joined, hjoin, hholds⟩ := c.exists_joinFinished conjunction (.nested s l)
          (.nested t r)
        refine ⟨.closed joined, ?_, by simp [commonPrefix, hpath], by simpa using hholds⟩
        have hmerge : ¬(true && (predicateBackend ι).merges s t conjunction) = true := by
          simpa [predicateBackend] using hpath
        rw [combine, if_neg hmerge, hjoin]

/-- Outside parentheses nothing is shared. -/
theorem combine_ungrouped (conjunction : Conjunction) (l r : Part ι (ι → Bool)) :
    c.combine (predicateBackend ι) conjunction false l r =
      c.joinFinished (predicateBackend ι) conjunction l r := by
  cases l <;> cases r <;> rfl

/-- A conjunction of two parts, in parentheses or not. -/
theorem exists_combine (conjunction : Conjunction) (grouped : Bool) (l r : Part ι (ι → Bool)) :
    ∃ part, c.combine (predicateBackend ι) conjunction grouped l r = .ok part ∧
      part.paths = (if grouped then commonPrefix l.paths r.paths else []) ∧
      ∀ element, part.core.query element = true ↔
        conjunction.Joins ((l.drop part.paths.length).Holds element)
          ((r.drop part.paths.length).Holds element) := by
  cases grouped with
  | true => exact exists_combine_grouped conjunction l r
  | false =>
    obtain ⟨joined, hjoin, hholds⟩ := c.exists_joinFinished conjunction l r
    exact ⟨.closed joined, by rw [combine_ungrouped, hjoin], rfl, by simpa using hholds⟩

section Combined

variable {conjunction : Conjunction} {grouped : Bool} {l r part : Part ι (ι → Bool)}

theorem paths_of_combine
    (h : c.combine (predicateBackend ι) conjunction grouped l r = .ok part) :
    part.paths = if grouped then commonPrefix l.paths r.paths else [] := by
  obtain ⟨joined, hjoined, hpaths, -⟩ := c.exists_combine conjunction grouped l r
  cases h.symm.trans hjoined
  exact hpaths

theorem core_of_combine
    (h : c.combine (predicateBackend ι) conjunction grouped l r = .ok part) (element : ι) :
    part.core.query element = true ↔
      conjunction.Joins ((l.drop part.paths.length).Holds element)
        ((r.drop part.paths.length).Holds element) := by
  obtain ⟨joined, hjoined, -, hcore⟩ := c.exists_combine conjunction grouped l r
  cases h.symm.trans hjoined
  exact hcore element

end Combined

/-! ## Conditions for comparisons. -/

/-- A literal that fits has a value, unless it is in one of the forms without a value. -/
theorem exists_literal_of_fits {map : FieldMap ι} {accessor : Accessor ι} {q : Comparison}
    (h : c.Fits map accessor q) (hop : ∀ symbol, q.op ≠ .custom symbol) (hbare : ¬q.isBare = true)
    (hkeyword : ¬q.isWithKeyword c.mapper.config = true) :
    ∃ literal, Condition.literal? c.mapper.config map.convertor accessor.kind q.op q.raw =
      some literal := by
  refine Option.isSome_iff_exists.1 ?_
  unfold Fits at h
  split at h
  · exact absurd ‹_› (hop _)
  · exact (h.resolve_left hbare).resolve_left hkeyword

/-- A literal that fits gives a condition that some value may satisfy. -/
theorem exists_condition_of_fits {map : FieldMap ι} {accessor : Accessor ι} {q : Comparison}
    (h : c.Fits map accessor q) :
    ∃ condition, Condition.of c.mapper.config c.operators map accessor q.name q.op q.raw
      q.ignoreCase = .ok condition ∧ condition.unfit? = none := by
  by_cases hcustom : ∃ symbol, q.op = .custom symbol
  · obtain ⟨symbol, hop⟩ := hcustom
    simp only [Fits, hop, OperatorRegistry.contains] at h
    obtain ⟨operator, hfind⟩ := Option.isSome_iff_exists.1 h
    exact ⟨.test (.custom operator q.raw), by simp [Condition.of, hop, hfind], rfl⟩
  · have hop : ∀ symbol, q.op ≠ .custom symbol := not_exists.1 hcustom
    refine ⟨_, condition_of_builtin hop, ?_⟩
    split
    · cases q.op <;> cases accessor.nullable <;> rfl
    · rename_i hbare
      split
      · rfl
      · rename_i hkeyword
        obtain ⟨literal, hliteral⟩ := exists_literal_of_fits h hop hbare hkeyword
        rw [hliteral]
        rfl

theorem exists_alongChain (target : (ι → Value) → Target ι)
    (htarget : ∀ read, (target read).read = read) (condition : Condition) (chain : Chain ι) :
    ∃ part, alongChain (predicateBackend ι) target condition chain = .ok part ∧
      part.paths = chain.collections ∧
      ∀ element, part.core.query element = condition.accepts (chain.readLast element) := by
  induction chain with
  | value read =>
    refine ⟨.closed ⟨_, false⟩, bind_eq_ok.2 ⟨_, leaf_predicate _ _, rfl⟩, rfl, fun element => ?_⟩
    simp [Chain.readLast, htarget]
  | each path elements inner ih =>
    obtain ⟨part, hpart, hpaths, hcore⟩ := ih
    exact ⟨.nested ⟨path, elements⟩ part, bind_eq_ok.2 ⟨part, hpart, rfl⟩,
      by simp [Chain.collections, hpaths], hcore⟩

/-- A literal that fits is not reported, and the part for an accessor is open on the collections of
its way. -/
theorem exists_accessorPart_of_fits {q : Comparison} {map : FieldMap ι} {accessor : Accessor ι}
    (hfits : c.Fits map accessor q) :
    ∃ part, c.accessorPart (predicateBackend ι) map q.name q.index q.op q.raw q.ignoreCase
        accessor = .ok (part, none) ∧ part.paths = accessor.chain.collections ∧
      ∀ element, part.core.query element = true ↔
        c.Satisfies map accessor q (accessor.chain.readLast element) := by
  obtain ⟨condition, hcondition, hunfit⟩ := exists_condition_of_fits hfits
  obtain ⟨part, hpart, hpaths, hcore⟩ := exists_alongChain
    (fun read => ⟨q.name, accessor.path.getD q.name, accessor.kind, accessor.nullable, q.index, read⟩)
    (fun _ => rfl) condition accessor.chain
  refine ⟨part, bind_eq_ok.2 ⟨condition, hcondition, ?_⟩, hpaths, fun element => ?_⟩
  · cases condition with
    | never unfit => cases hunfit
    | _ => exact bind_eq_ok.2 ⟨part, hpart, rfl⟩
  · rw [hcore, accepts_of_condition hcondition]

/-- A comparison of a field with a single accessor is open on the collections of its way. -/
theorem exists_comparison {q : Comparison} {map : FieldMap ι} {accessor : Accessor ι}
    (h : c.Compares q map accessor) (hfits : c.Fits map accessor q) :
    ∃ part, c.comparison (predicateBackend ι) q.name q.index q.op q.raw q.ignoreCase =
        .ok (part, []) ∧ part.paths = accessor.chain.collections ∧
      ∀ element, part.core.query element = true ↔
        c.Satisfies map accessor q (accessor.chain.readLast element) := by
  obtain ⟨part, hpart, hpaths, hcore⟩ := exists_accessorPart_of_fits hfits
  exact ⟨part, comparison_of_parts h.mapped h.only hpart rfl rfl, hpaths, hcore⟩

/-- A comparison of a field with a single accessor says of an element what is asked of the value that
is read from it. -/
theorem meansAt_comparison {q : Comparison} {map : FieldMap ι} {accessor : Accessor ι}
    (h : c.Compares q map accessor) (element : ι) :
    c.MeansAt q.expr element ↔ c.Satisfies map accessor q (accessor.chain.readLast element) := by
  constructor
  · intro hmeans
    obtain ⟨map', accessor', h', hsatisfies⟩ := hmeans
    -- The field and its accessor are determined by the comparison.
    cases h.mapped.symm.trans h'.mapped
    cases h.only.symm.trans h'.only
    exact hsatisfies
  · intro hsatisfies
    exact ⟨map, accessor, h, hsatisfies⟩

/-- Comparisons through the same collections become one open condition on these collections. -/
theorem exists_yields_of_follows {paths : List String} {e : Expr} (h : c.Follows paths e) :
    ∃ part, c.Yields (predicateBackend ι) true e part [] ∧ part.paths = paths ∧
      ∀ element, part.core.query element = true ↔ c.MeansAt e element := by
  induction h with
  | group _ ih =>
    obtain ⟨part, hyields, hpaths, hcore⟩ := ih
    exact ⟨part, .group hyields, hpaths, hcore⟩
  | @logical left right conjunction _ _ ihl ihr =>
    obtain ⟨l, hl, hlpaths, hlcore⟩ := ihl
    obtain ⟨r, hr, hrpaths, hrcore⟩ := ihr
    obtain ⟨part, hjoin, hpaths, hcore⟩ := exists_combine_grouped (c := c) conjunction l r
    -- Both sides are open on all of the paths, so nothing but their queries is left.
    have hshared : part.paths = paths := by
      rw [hpaths, hlpaths, hrpaths, commonPrefix_self]
    have hleft : l.drop part.paths.length = .closed l.core := by
      rw [hshared, ← hlpaths, Part.drop_length]
    have hright : r.drop part.paths.length = .closed r.core := by
      rw [hshared, ← hrpaths, Part.drop_length]
    refine ⟨part, .logical hl hr hjoin, hshared, fun element => ?_⟩
    rw [hcore, hleft, hright]
    simp only [Part.Holds, hlcore, hrcore, MeansAt]
  | comparison h hfits hpaths =>
    obtain ⟨part, hpart, hpartPaths, hcore⟩ := exists_comparison h hfits
    refine ⟨part, .comparison hpart, hpartPaths.trans hpaths, fun element => ?_⟩
    rw [hcore]
    exact (meansAt_comparison h element).symm

/-- Behind some of the paths of an expression, what is left of its open condition says what the
expression says along the rest of them. -/
theorem holds_drop_iff_meansAlong (hm : c.mapper.IsConsistent) {part : Part ι (ι → Bool)}
    (hpart : part.IsFrom c.mapper) {e : Expr}
    (hcore : ∀ element, part.core.query element = true ↔ c.MeansAt e element) (n : Nat)
    (item : ι) : (part.drop n).Holds item ↔ c.MeansAlong (part.paths.drop n) e item := by
  rw [Part.holds_iff_leads hm (hpart.drop n), Part.paths_drop, Part.core_drop]
  simp only [MeansAlong, hcore]

/-- On its own, a comparison asks for some element that its collections lead to. -/
theorem means_iff_meansAlong (hm : c.mapper.IsConsistent) {q : Comparison} {paths : List String}
    (h : c.Follows paths q.expr) (item : ι) :
    c.Means q.expr item ↔ c.MeansAlong paths q.expr item := by
  cases h with
  | @comparison _ _ _ _ _ map accessor h _ hpaths =>
    have huses : ∀ s ∈ accessor.chain.steps, c.mapper.Uses s := by
      intro s hs
      have hoffers := (mem_accessors h.only accessor).1 (by simp)
      exact ⟨map, List.mem_of_find?_eq_some h.mapped, q.index, accessor, hoffers, hs⟩
    have hmeans : c.Means q.expr item ↔
        ∃ v ∈ accessor.chain.reach item, c.Satisfies map accessor q v := by
      have hfind : c.mapper.find? q.name = some map := h.mapped
      show c.MeansComparison q item ↔ _
      simp only [MeansComparison, hfind, ← mem_accessors h.only, List.mem_singleton,
        exists_eq_left]
    rw [hmeans, ← hpaths]
    simp only [Chain.mem_reach_iff hm huses]
    constructor
    · intro hvalue
      obtain ⟨v, ⟨element, hleads, rfl⟩, hsatisfies⟩ := hvalue
      exact ⟨element, hleads, (meansAt_comparison h element).2 hsatisfies⟩
    · intro hmeans
      obtain ⟨element, hleads, hat⟩ := hmeans
      exact ⟨_, ⟨element, hleads, rfl⟩, (meansAt_comparison h element).1 hat⟩

/-- A group whose comparisons all go through the same collections is compiled to one condition: some
element of the innermost collection is such that the whole group is true of the values read from
it. -/
theorem accepts_group_iff (c : Compiler ι) (hm : c.mapper.IsConsistent) {paths : List String}
    {inner : Expr} (h : c.Follows paths inner) :
    ∃ built, c.build (predicateBackend ι) ⟨.group inner, []⟩ = .ok built ∧
      ∀ item, built.accepts item = true ↔ c.MeansAlong paths inner item := by
  obtain ⟨part, hyields, hpaths, hcore⟩ := exists_yields_of_follows h
  obtain ⟨built, hfinish, hholds⟩ := c.exists_finish part
  refine ⟨built, build_eq_ok_iff.2 ⟨rfl, part, [], .group hyields, hfinish, fun _ => rfl⟩, ?_⟩
  intro item
  have halong := holds_drop_iff_meansAlong hm (isFrom_of_yields hyields) hcore 0 item
  rw [Part.drop_zero, List.drop_zero, hpaths] at halong
  rw [Built.accepts, hholds, halong]

/-- The pets of an item, each as an item of one pet. -/
def petsOf (pets : List (List String)) : Option (List (List (List String))) :=
  some (pets.map fun pet => [pet])

/-- The toys of the first pet, each as an item of one pet with one toy. -/
def toysOf (pets : List (List String)) : Option (List (List (List String))) :=
  some ((pets.headD []).map fun toy => [[toy]])

/-- The first toy of the first pet. -/
def firstToy : Accessor (List (List String)) :=
  .computed .string false fun pets => .string ((pets.headD []).headD "")

/-- The toys of all pets. -/
def toyAccessor : Accessor (List (List String)) := .each "pets" petsOf (.each "toys" toysOf firstToy)

/-- The favourite toy of each pet. -/
def favouriteAccessor : Accessor (List (List String)) := .each "pets" petsOf firstToy

/-- Toys by name. -/
def toyField : FieldMap (List (List String)) := { name := "toy", mapping := .single toyAccessor }

/-- Favourite toys by name. -/
def favouriteField : FieldMap (List (List String)) :=
  { name := "favourite", mapping := .single favouriteAccessor }

/-- Filters on lists of pets, where a pet is the list of its toys, the favourite one first. -/
def toyCompiler : Compiler (List (List String)) where
  mapper := {
    config := { caseSensitiveNames := true }
    maps := [toyField, favouriteField]
    operators := .empty }

theorem isConsistent_toyCompiler : toyCompiler.mapper.IsConsistent := by
  have huses : ∀ s, toyCompiler.mapper.Uses s →
      s = ⟨"pets", petsOf⟩ ∨ s = ⟨"pets.toys", toysOf⟩ := by
    intro s hs
    obtain ⟨map, hmap, index, accessor, hoffers, hs⟩ := hs
    simp only [toyCompiler, List.mem_cons, List.not_mem_nil, or_false] at hmap
    rcases hmap with rfl | rfl <;> cases index <;>
      simp_all [FieldMap.Offers, toyField, favouriteField, toyAccessor, favouriteAccessor,
        Accessor.each, firstToy, Accessor.computed, Chain.steps, Chain.under, joinPaths]
  intro s t hs ht hpath item element
  rcases huses s hs with rfl | rfl <;> rcases huses t ht with rfl | rfl
  · rfl
  · exact absurd hpath (by decide)
  · exact absurd hpath (by decide)
  · rfl

/-- Whether there is a toy of the given name. -/
def toyIs (toy : String) : Comparison := ⟨"toy", none, .equal, toy, false⟩

/-- Whether there is a pet with the given favourite. -/
def favouriteIs (toy : String) : Comparison := ⟨"favourite", none, .equal, toy, false⟩

theorem follows_toyIs (toy : String) :
    toyCompiler.Follows ["pets", "pets.toys"] (toyIs toy).expr := by
  have hfind : toyCompiler.mapper.find? "toy" = some toyField := rfl
  have h : toyCompiler.Compares (toyIs toy) toyField toyAccessor := ⟨hfind, rfl⟩
  exact .comparison h (.inr (.inr rfl)) (by decide)

theorem follows_favouriteIs (toy : String) :
    toyCompiler.Follows ["pets"] (favouriteIs toy).expr := by
  have hfind : toyCompiler.mapper.find? "favourite" = some favouriteField := rfl
  have h : toyCompiler.Compares (favouriteIs toy) favouriteField favouriteAccessor := ⟨hfind, rfl⟩
  exact .comparison h (.inr (.inr rfl)) (by decide)

/-- One pet has a bone and a ball, and another one a rope. -/
theorem accepts_group_iff_toys :
    ∃ built, toyCompiler.build (predicateBackend _)
        ⟨.group (.group (.logical (toyIs "rope").expr .or (toyIs "ball").expr)), []⟩ = .ok built ∧
      built.accepts [["bone", "ball"], ["rope"]] = true ∧
      toyCompiler.MeansAlong ["pets", "pets.toys"]
        (.group (.logical (toyIs "rope").expr .or (toyIs "ball").expr))
        [["bone", "ball"], ["rope"]] := by
  obtain ⟨built, h, haccepts⟩ : ∃ built, toyCompiler.build (predicateBackend _)
      ⟨.group (.group (.logical (toyIs "rope").expr .or (toyIs "ball").expr)), []⟩ = .ok built ∧
      built.accepts [["bone", "ball"], ["rope"]] = true := ⟨_, rfl, by decide⟩
  have hfollows : toyCompiler.Follows ["pets", "pets.toys"]
      (.group (.logical (toyIs "rope").expr .or (toyIs "ball").expr)) :=
    .group (.logical (follows_toyIs "rope") (follows_toyIs "ball"))
  obtain ⟨built', h', hiff⟩ := accepts_group_iff toyCompiler isConsistent_toyCompiler hfollows
  cases h.symm.trans h'
  exact ⟨built, h, haccepts, (hiff _).1 haccepts⟩

/-- Two comparisons in a group share the elements of the collections that both of them go through
first, and have elements of their own from there on. Without such collections they are
independent. -/
theorem accepts_pair_iff (c : Compiler ι) (hm : c.mapper.IsConsistent) {x y : Comparison}
    {xs ys : List String} (hx : c.Follows xs x.expr) (hy : c.Follows ys y.expr)
    (conjunction : Conjunction) :
    ∃ built, c.build (predicateBackend ι) ⟨.group (.logical x.expr conjunction y.expr), []⟩ =
        .ok built ∧
      (∀ item, built.accepts item = true ↔
        ∃ element, c.mapper.Leads (commonPrefix xs ys) item element ∧
          conjunction.Joins (c.MeansAlong (xs.drop (commonPrefix xs ys).length) x.expr element)
            (c.MeansAlong (ys.drop (commonPrefix xs ys).length) y.expr element)) ∧
      (commonPrefix xs ys = [] → ∀ item, built.accepts item = true ↔
        conjunction.Joins (c.Means x.expr item) (c.Means y.expr item)) := by
  obtain ⟨l, hl, hlpaths, hlcore⟩ := exists_yields_of_follows hx
  obtain ⟨r, hr, hrpaths, hrcore⟩ := exists_yields_of_follows hy
  obtain ⟨part, hjoin, hpaths, hcore⟩ := exists_combine_grouped (c := c) conjunction l r
  have hyields := Yields.logical hl hr hjoin
  obtain ⟨built, hfinish, hholds⟩ := c.exists_finish part
  rw [hlpaths, hrpaths] at hpaths
  -- What is left of either side goes on from an element of the innermost shared collection.
  have hleft : ∀ element, (l.drop part.paths.length).Holds element ↔
      c.MeansAlong (xs.drop (commonPrefix xs ys).length) x.expr element := by
    intro element
    rw [holds_drop_iff_meansAlong hm (isFrom_of_yields hl) hlcore, hlpaths, hpaths]
  have hright : ∀ element, (r.drop part.paths.length).Holds element ↔
      c.MeansAlong (ys.drop (commonPrefix xs ys).length) y.expr element := by
    intro element
    rw [holds_drop_iff_meansAlong hm (isFrom_of_yields hr) hrcore, hrpaths, hpaths]
  have haccepts : ∀ item, built.accepts item = true ↔
      ∃ element, c.mapper.Leads (commonPrefix xs ys) item element ∧
        conjunction.Joins (c.MeansAlong (xs.drop (commonPrefix xs ys).length) x.expr element)
          (c.MeansAlong (ys.drop (commonPrefix xs ys).length) y.expr element) := by
    intro item
    rw [Built.accepts, hholds, Part.holds_iff_leads hm (isFrom_of_yields hyields), hpaths]
    simp only [hcore, hleft, hright]
  refine ⟨built, build_eq_ok_iff.2 ⟨rfl, part, [], .group hyields, hfinish, fun _ => rfl⟩,
    haccepts, ?_⟩
  intro hnone item
  rw [haccepts, hnone, means_iff_meansAlong hm hx, means_iff_meansAlong hm hy]
  simp [Mapper.Leads]

/-- The pet that has the ball is the one whose favourite is the bone. -/
theorem accepts_pair_iff_toys :
    ∃ built, toyCompiler.build (predicateBackend _)
        ⟨.group (.logical (toyIs "ball").expr .and (favouriteIs "bone").expr), []⟩ = .ok built ∧
      built.accepts [["bone", "ball"], ["rope"]] = true ∧
      ∃ pet, toyCompiler.mapper.Leads ["pets"] [["bone", "ball"], ["rope"]] pet ∧
        toyCompiler.MeansAlong ["pets.toys"] (toyIs "ball").expr pet ∧
        toyCompiler.MeansAlong [] (favouriteIs "bone").expr pet := by
  obtain ⟨built, h, haccepts⟩ : ∃ built, toyCompiler.build (predicateBackend _)
      ⟨.group (.logical (toyIs "ball").expr .and (favouriteIs "bone").expr), []⟩ = .ok built ∧
      built.accepts [["bone", "ball"], ["rope"]] = true := ⟨_, rfl, by decide⟩
  obtain ⟨built', h', hiff, -⟩ := accepts_pair_iff toyCompiler isConsistent_toyCompiler
    (follows_toyIs "ball") (follows_favouriteIs "bone") .and
  cases h.symm.trans h'
  exact ⟨built, h, haccepts, (hiff _).1 haccepts⟩

end Compiler

end FilterQuery
