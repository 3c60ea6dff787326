import FilterQuery.Proofs.Meaning

/-!
# What compiling keeps

The compiler touches queries only through the operations of the backend. So what holds of constants
and leaves, and is kept when queries are joined and put under a collection, holds of every query
that it makes. The collections are those of the mapper, and the tests are those that the operators
of the filter ask for. What is said of a query may depend on the collections around it, which a
`Scoping` keeps account of.

## Key results

- `Backend.KeepsAt.has_of_yields`, `Backend.KeepsAt.of_build`: what a backend keeps at each place
  holds of the queries of filters at their places
- `Backend.Keeps.of_build`: what a backend keeps anywhere holds of the queries of filters
- `isFrom_of_yields`: open conditions are on collections of the mapper
-/

namespace FilterQuery

variable {ι Q σ : Type}

/-- What holds of the results of a traversal, element by element. -/
theorem forall_of_mapM {ε α β : Type} {f : α → Except ε β} {P : β → Prop} {as : List α}
    {bs : List β} (hf : ∀ a ∈ as, ∀ b, f a = .ok b → P b) (h : as.mapM f = .ok bs) :
    ∀ b ∈ bs, P b := by
  have hall := mapM_eq_ok.1 h
  induction hall with
  | nil => simp
  | @cons a b as bs hab hrest ih =>
    rw [List.forall_mem_cons]
    exact ⟨hf a (by simp) b hab,
      ih (fun a ha => hf a (List.mem_cons_of_mem _ ha)) (mapM_eq_ok.2 hrest)⟩

/-! ## Collections of a mapper. -/

/-- The collections on a way, outermost first. -/
def Chain.steps : Chain ι → List (Collection ι)
  | .value _ => []
  | .each path elements inner => ⟨path, elements⟩ :: inner.steps

/-- What is read at the end of the way, from an element of the innermost collection. -/
def Chain.readLast : Chain ι → ι → Value
  | .value read => read
  | .each _ _ inner => inner.readLast

/-- The collections of the open conditions of a part, outermost first. -/
def Part.collections {Q : Type} : Part ι Q → List (Collection ι)
  | .closed _ => []
  | .nested collection inner => collection :: inner.collections

/-- Whether an accessor of the mapper goes through the collection. -/
def Mapper.Uses (m : Mapper ι) (collection : Collection ι) : Prop :=
  ∃ map ∈ m.maps, ∃ index accessor, map.Offers index accessor ∧
    collection ∈ accessor.chain.steps

/-- Whether the open conditions of a part are on collections of the mapper. -/
def Part.IsFrom {Q : Type} (m : Mapper ι) (part : Part ι Q) : Prop :=
  ∀ collection ∈ part.collections, m.Uses collection

theorem Part.IsFrom.head {Q : Type} {m : Mapper ι} {collection : Collection ι} {inner : Part ι Q}
    (h : (Part.nested collection inner).IsFrom m) : m.Uses collection :=
  h collection (by simp [Part.collections])

theorem Part.IsFrom.inner {Q : Type} {m : Mapper ι} {collection : Collection ι} {inner : Part ι Q}
    (h : (Part.nested collection inner).IsFrom m) : inner.IsFrom m :=
  fun s hs => h s (by simp [Part.collections, hs])

/-! ## Tests of a filter. -/

/-- The operators of an expression, from left to right. -/
def Expr.operators : Expr → List Operator
  | .logical left _ right => left.operators ++ right.operators
  | .comparison left op right => op :: (left.operators ++ right.operators)
  | .group inner => inner.operators
  | _ => []

/-- The tests that a condition is made of. -/
def Condition.tests : Condition → List Test
  | .test only => [only]
  | .either first second | .both first second => [first, second]
  | .never _ => []

/-- Whether a comparison with the operator may come to the test. -/
def Compiler.Asks (c : Compiler ι) (op : Operator) (test : Test) : Prop :=
  ∃ (map : FieldMap ι) (accessor : Accessor ι) (name raw : String) (ignoreCase : Bool)
    (condition : Condition),
    Condition.of c.mapper.config c.operators map accessor name op raw ignoreCase = .ok condition ∧
      test ∈ condition.tests

/-- Whether the comparison comes to the test of a field at the end of an accessor's way. -/
def Compiler.Requires (c : Compiler ι) (q : Comparison) (target : Target ι) (test : Test) : Prop :=
  ∃ (map : FieldMap ι) (accessor : Accessor ι) (condition : Condition),
    c.mapper.find? q.name = some map ∧ map.Offers q.index accessor ∧
      Condition.of c.mapper.config c.operators map accessor q.name q.op q.raw q.ignoreCase =
        .ok condition ∧
      test ∈ condition.tests ∧ target = q.target accessor accessor.chain.readLast

theorem Compiler.Requires.asks {c : Compiler ι} {q : Comparison} {target : Target ι} {test : Test}
    (h : c.Requires q target test) : c.Asks q.op test := by
  obtain ⟨map, accessor, condition, -, -, hcondition, htest, -⟩ := h
  exact ⟨map, accessor, q.name, q.raw, q.ignoreCase, condition, hcondition, htest⟩

theorem Expr.op_mem_operators {e : Expr} {q : Comparison} (h : q ∈ e.comparisons) :
    q.op ∈ e.operators := by
  induction e with
  | logical left conjunction right ihl ihr =>
    rw [Expr.comparisons, List.mem_append] at h
    exact List.mem_append.2 (h.imp ihl ihr)
  | group inner ih => exact ih h
  | comparison left op right _ _ =>
    unfold Expr.comparisons at h
    split at h <;> simp_all [Expr.operators]
  | _ => cases h

/-! ## Places of queries. -/

/-- What is known of the place that a query is made for: of an item at first, and of the elements of
one collection after the other. -/
structure Scoping (ι σ : Type) where
  start : σ
  enter : σ → Collection ι → σ

/-- The place behind the collections, outermost first. -/
def Scoping.behind (scoping : Scoping ι σ) (steps : List (Collection ι)) : σ :=
  steps.foldl scoping.enter scoping.start

/-- Whether an accessor of the mapper goes through the collection at the place. -/
def Mapper.Opens (m : Mapper ι) (scoping : Scoping ι σ) (place : σ) (collection : Collection ι) :
    Prop :=
  ∃ map ∈ m.maps, ∃ index accessor, map.Offers index accessor ∧ ∃ before after,
    accessor.chain.steps = before ++ collection :: after ∧ place = scoping.behind before

theorem Mapper.Opens.uses {m : Mapper ι} {scoping : Scoping ι σ} {place : σ}
    {collection : Collection ι} (h : m.Opens scoping place collection) : m.Uses collection := by
  obtain ⟨map, hmap, index, accessor, hoffers, before, after, hsteps, -⟩ := h
  exact ⟨map, hmap, index, accessor, hoffers, by simp [hsteps]⟩

/-- Whether the comparison comes to the test of a field at the end of an accessor's way, and the way
leads to the place. -/
def Compiler.RequiresAt (c : Compiler ι) (scoping : Scoping ι σ) (q : Comparison) (place : σ)
    (target : Target ι) (test : Test) : Prop :=
  ∃ (map : FieldMap ι) (accessor : Accessor ι) (condition : Condition),
    c.mapper.find? q.name = some map ∧ map.Offers q.index accessor ∧
      Condition.of c.mapper.config c.operators map accessor q.name q.op q.raw q.ignoreCase =
        .ok condition ∧
      test ∈ condition.tests ∧ target = q.target accessor accessor.chain.readLast ∧
      place = scoping.behind accessor.chain.steps

theorem Compiler.RequiresAt.requires {c : Compiler ι} {scoping : Scoping ι σ} {q : Comparison}
    {place : σ} {target : Target ι} {test : Test} (h : c.RequiresAt scoping q place target test) :
    c.Requires q target test := by
  obtain ⟨map, accessor, condition, hmap, hoffers, hcondition, htest, htarget, -⟩ := h
  exact ⟨map, accessor, condition, hmap, hoffers, hcondition, htest, htarget⟩

/-! ## Properties of queries. -/

/-- A property of queries at places that the constants have, that leaves have whose test is one of
`Asked` at the place, and that the other operations of the backend keep. -/
structure Backend.KeepsAt (backend : Backend ι Q) (m : Mapper ι) (scoping : Scoping ι σ)
    (Asked : σ → Target ι → Test → Prop) (P : σ → Built Q → Prop) : Prop where
  always : ∀ place, P place ⟨backend.always, false⟩
  never : ∀ place, P place ⟨backend.never, false⟩
  leaf : ∀ {place target test query}, Asked place target test →
    backend.leaf target test = .ok query → P place ⟨query, false⟩
  join : ∀ conjunction {place l r}, P place l → P place r →
    P place ⟨backend.join conjunction l.query r.query, l.nested || r.nested⟩
  any : ∀ {place collection built nullGuard query}, m.Opens scoping place collection →
    P (scoping.enter place collection) built →
    backend.any collection built.query nullGuard = .ok query → P place ⟨query, true⟩
  /-- Merged conditions are about the same place. -/
  enter_eq : ∀ {s t conjunction}, backend.merges s t conjunction = true →
    ∀ place, scoping.enter place s = scoping.enter place t

/-- Whether the query inside a part has the property at its place, and the open conditions around it
are on collections of the mapper, each at its place. -/
def Part.HasAt (m : Mapper ι) (scoping : Scoping ι σ) (P : σ → Built Q → Prop) :
    σ → Part ι Q → Prop
  | place, .closed built => P place built
  | place, .nested collection inner =>
    m.Opens scoping place collection ∧ inner.HasAt m scoping P (scoping.enter place collection)

namespace Backend.KeepsAt

variable {backend : Backend ι Q} {c : Compiler ι} {scoping : Scoping ι σ}
  {Asked : σ → Target ι → Test → Prop} {P : σ → Built Q → Prop} {place : σ}

theorem finish (hkeeps : backend.KeepsAt c.mapper scoping Asked P) {part : Part ι Q}
    {built : Built Q} (hpart : part.HasAt c.mapper scoping P place)
    (h : c.finish backend part = .ok built) : P place built := by
  induction part generalizing place built with
  | closed built =>
    cases h
    exact hpart
  | nested collection inner ih =>
    obtain ⟨closed, hclosed, h⟩ := bind_eq_ok.1 h
    obtain ⟨query, hquery, h⟩ := bind_eq_ok.1 h
    cases h
    exact hkeeps.any hpart.1 (ih hpart.2 hclosed) hquery

theorem joinFinished (hkeeps : backend.KeepsAt c.mapper scoping Asked P) {conjunction : Conjunction}
    {l r part : Part ι Q} (hl : l.HasAt c.mapper scoping P place)
    (hr : r.HasAt c.mapper scoping P place)
    (h : c.joinFinished backend conjunction l r = .ok part) :
    part.HasAt c.mapper scoping P place := by
  obtain ⟨left, hleft, h⟩ := bind_eq_ok.1 h
  obtain ⟨right, hright, h⟩ := bind_eq_ok.1 h
  cases h
  exact hkeeps.join conjunction (hkeeps.finish hl hleft) (hkeeps.finish hr hright)

theorem combine (hkeeps : backend.KeepsAt c.mapper scoping Asked P) {conjunction : Conjunction}
    {grouped : Bool} {l r part : Part ι Q} (hl : l.HasAt c.mapper scoping P place)
    (hr : r.HasAt c.mapper scoping P place)
    (h : c.combine backend conjunction grouped l r = .ok part) :
    part.HasAt c.mapper scoping P place := by
  induction l generalizing place r part with
  | closed built => cases r <;> exact hkeeps.joinFinished hl hr h
  | nested s l ih =>
    cases r with
    | closed built => exact hkeeps.joinFinished hl hr h
    | nested t r =>
      rw [Compiler.combine] at h
      split at h
      · rename_i hmerges
        obtain ⟨inner, hinner, h⟩ := bind_eq_ok.1 h
        cases h
        -- The second condition goes on in the collection of the first one.
        have hright := hr.2
        rw [← hkeeps.enter_eq (Bool.and_eq_true_iff.1 hmerges).2] at hright
        exact ⟨hl.1, ih hl.2 hright hinner⟩
      · exact hkeeps.joinFinished hl hr h

theorem leaf_condition (hkeeps : backend.KeepsAt c.mapper scoping Asked P) {target : Target ι}
    {condition : Condition} {query : Q} (hasked : ∀ test ∈ condition.tests, Asked place target test)
    (h : Compiler.leaf backend target condition = .ok query) : P place ⟨query, false⟩ := by
  cases condition with
  | test only => exact hkeeps.leaf (hasked only (by simp [Condition.tests])) h
  | either first second =>
    obtain ⟨l, hl, h⟩ := bind_eq_ok.1 h
    obtain ⟨r, hr, h⟩ := bind_eq_ok.1 h
    cases h
    have hfirst := hkeeps.leaf (hasked first (by simp [Condition.tests])) hl
    have hsecond := hkeeps.leaf (hasked second (by simp [Condition.tests])) hr
    exact hkeeps.join .or hfirst hsecond
  | both first second =>
    obtain ⟨l, hl, h⟩ := bind_eq_ok.1 h
    obtain ⟨r, hr, h⟩ := bind_eq_ok.1 h
    cases h
    have hfirst := hkeeps.leaf (hasked first (by simp [Condition.tests])) hl
    have hsecond := hkeeps.leaf (hasked second (by simp [Condition.tests])) hr
    exact hkeeps.join .and hfirst hsecond
  | never unfit =>
    cases h
    exact hkeeps.never place

theorem alongChain (hkeeps : backend.KeepsAt c.mapper scoping Asked P)
    {target : (ι → Value) → Target ι} {condition : Condition} {chain : Chain ι}
    (hasked : ∀ test ∈ condition.tests,
      Asked (chain.steps.foldl scoping.enter place) (target chain.readLast) test)
    (hopens : ∀ before s after, chain.steps = before ++ s :: after →
      c.mapper.Opens scoping (before.foldl scoping.enter place) s) {part : Part ι Q}
    (h : Compiler.alongChain backend target condition chain = .ok part) :
    part.HasAt c.mapper scoping P place := by
  induction chain generalizing place part with
  | value read =>
    obtain ⟨query, hquery, h⟩ := bind_eq_ok.1 h
    cases h
    exact hkeeps.leaf_condition hasked hquery
  | each path elements inner ih =>
    obtain ⟨part, hpart, h⟩ := bind_eq_ok.1 h
    cases h
    have hinner : ∀ before s after, inner.steps = before ++ s :: after → c.mapper.Opens scoping
        (before.foldl scoping.enter (scoping.enter place ⟨path, elements⟩)) s := by
      intro before s after hsteps
      exact hopens (⟨path, elements⟩ :: before) s after (congrArg (List.cons _) hsteps)
    exact ⟨hopens [] _ _ rfl, ih hasked hinner hpart⟩

theorem accessorPart (hkeeps : backend.KeepsAt c.mapper scoping Asked P) {map : FieldMap ι}
    {accessor : Accessor ι} {q : Comparison} (hmap : c.mapper.find? q.name = some map)
    (hoffers : map.Offers q.index accessor)
    (hasked : ∀ place target test,
      c.RequiresAt scoping q place target test → Asked place target test)
    {p : Part ι Q × Option UnfitValue}
    (h : c.accessorPart backend map q.name q.index q.op q.raw q.ignoreCase accessor = .ok p) :
    p.1.HasAt c.mapper scoping P scoping.start := by
  obtain ⟨condition, hcondition, h⟩ := bind_eq_ok.1 h
  split at h
  · cases h
    exact hkeeps.never scoping.start
  · obtain ⟨part, hpart, h⟩ := bind_eq_ok.1 h
    cases h
    have hmaps := List.mem_of_find?_eq_some hmap
    exact hkeeps.alongChain
      (fun test htest => hasked _ _ test
        ⟨map, accessor, condition, hmap, hoffers, hcondition, htest, rfl, rfl⟩)
      (fun before s after hsteps =>
        ⟨map, hmaps, q.index, accessor, hoffers, before, after, hsteps, rfl⟩) hpart

theorem foldl_or (hkeeps : backend.KeepsAt c.mapper scoping Asked P) {first : Built Q}
    {rest : List (Built Q)} (hfirst : P place first) (hrest : ∀ built ∈ rest, P place built) :
    P place (rest.foldl (fun l r => ⟨backend.or l.query r.query, l.nested || r.nested⟩) first) := by
  induction rest generalizing first with
  | nil => exact hfirst
  | cons next rest ih =>
    have hnext := hkeeps.join .or hfirst (hrest next (by simp))
    exact ih hnext fun built hbuilt => hrest built (by simp [hbuilt])

theorem anyPart (hkeeps : backend.KeepsAt c.mapper scoping Asked P) {first part : Part ι Q}
    {rest : List (Part ι Q)} (hfirst : first.HasAt c.mapper scoping P place)
    (hrest : ∀ p ∈ rest, p.HasAt c.mapper scoping P place)
    (h : c.anyPart backend first rest = .ok part) : part.HasAt c.mapper scoping P place := by
  cases rest with
  | nil =>
    cases h
    exact hfirst
  | cons next rest =>
    obtain ⟨built, hbuilt, h⟩ := bind_eq_ok.1 h
    obtain ⟨builts, hbuilts, h⟩ := bind_eq_ok.1 h
    cases h
    have hnexts := forall_of_mapM (fun p hp b hb => hkeeps.finish (hrest p hp) hb) hbuilts
    exact hkeeps.foldl_or (hkeeps.finish hfirst hbuilt) hnexts

theorem comparison (hkeeps : backend.KeepsAt c.mapper scoping Asked P) {q : Comparison}
    (hasked : ∀ place target test,
      c.RequiresAt scoping q place target test → Asked place target test)
    {part : Part ι Q} {unfit : List UnfitValue}
    (h : c.comparison backend q.name q.index q.op q.raw q.ignoreCase = .ok (part, unfit)) :
    part.HasAt c.mapper scoping P scoping.start := by
  cases hmap : c.mapper.find? q.name with
  | none =>
    simp only [Compiler.comparison, hmap] at h
    split at h
    · cases h
      exact hkeeps.always scoping.start
    · cases h
  | some map =>
    obtain ⟨first, rest, p, ps, haccessors, hp, hps, hjoin, -⟩ := Compiler.parts_of_comparison hmap h
    have hhas : ∀ accessor ∈ first :: rest, ∀ p,
        c.accessorPart backend map q.name q.index q.op q.raw q.ignoreCase accessor = .ok p →
          p.1.HasAt c.mapper scoping P scoping.start := by
      intro accessor haccessor p hp
      have hoffers := (Compiler.mem_accessors haccessors accessor).1 haccessor
      exact hkeeps.accessorPart hmap hoffers hasked hp
    have hfirst := hhas first (by simp) p hp
    have hrest := forall_of_mapM (fun accessor ha p hp => hhas accessor (by simp [ha]) p hp)
      (mapM_eq_ok.2 hps)
    exact hkeeps.anyPart hfirst (by simpa using hrest) hjoin

/-- What the backend keeps at each place holds of the query of an expression. -/
theorem has_of_yields (hkeeps : backend.KeepsAt c.mapper scoping Asked P) {grouped : Bool} {e : Expr}
    {part : Part ι Q} {unfit : List UnfitValue} (h : c.Yields backend grouped e part unfit)
    (hasked : ∀ q ∈ e.comparisons, ∀ place target test, c.RequiresAt scoping q place target test →
      Asked place target test) : part.HasAt c.mapper scoping P scoping.start := by
  induction h with
  | group _ ih => exact ih hasked
  | logical _ _ hjoin ihl ihr =>
    simp only [Expr.comparisons, List.forall_mem_append] at hasked
    exact hkeeps.combine (ihl hasked.1) (ihr hasked.2) hjoin
  | @comparison _ name index op raw ignoreCase _ _ h =>
    exact hkeeps.comparison (q := ⟨name, index, op, raw, ignoreCase⟩)
      (hasked _ (by simp [Expr.comparisons])) h

/-- What the backend keeps at each place holds of the query of a filter. -/
theorem of_build (hkeeps : backend.KeepsAt c.mapper scoping Asked P) {tree : FilterTree}
    {built : Built Q} (h : c.build backend tree = .ok built)
    (hasked : ∀ q ∈ tree.root.comparisons, ∀ place target test,
      c.RequiresAt scoping q place target test → Asked place target test) :
    P scoping.start built := by
  obtain ⟨-, part, unfit, hyields, hfinish, -⟩ := Compiler.build_eq_ok_iff.1 h
  exact hkeeps.finish (hkeeps.has_of_yields hyields hasked) hfinish

end Backend.KeepsAt

/-! ## Properties that do not depend on the place. -/

/-- A property of queries that the constants have, that leaves have whose test is one of `Asked`,
and that the other operations of the backend keep. -/
structure Backend.Keeps (backend : Backend ι Q) (m : Mapper ι) (Asked : Target ι → Test → Prop)
    (P : Built Q → Prop) : Prop where
  always : P ⟨backend.always, false⟩
  never : P ⟨backend.never, false⟩
  leaf : ∀ {target test query}, Asked target test → backend.leaf target test = .ok query →
    P ⟨query, false⟩
  join : ∀ conjunction {l r}, P l → P r →
    P ⟨backend.join conjunction l.query r.query, l.nested || r.nested⟩
  any : ∀ {collection built nullGuard query}, m.Uses collection → P built →
    backend.any collection built.query nullGuard = .ok query → P ⟨query, true⟩

/-- Whether the query inside a part has the property, and its open conditions are on collections of
the mapper. -/
def Part.Has (m : Mapper ι) (P : Built Q → Prop) : Part ι Q → Prop
  | .closed built => P built
  | .nested collection inner => m.Uses collection ∧ inner.Has m P

theorem Part.Has.isFrom {m : Mapper ι} {P : Built Q → Prop} {part : Part ι Q}
    (h : part.Has m P) : part.IsFrom m := by
  induction part with
  | closed built => exact fun s hs => nomatch hs
  | nested collection inner ih =>
    intro s hs
    rcases List.mem_cons.1 hs with rfl | hs
    · exact h.1
    · exact ih h.2 s hs

theorem Part.HasAt.has {m : Mapper ι} {scoping : Scoping ι σ} {P : Built Q → Prop} {place : σ}
    {part : Part ι Q} (h : part.HasAt m scoping (fun _ => P) place) : part.Has m P := by
  induction part generalizing place with
  | closed built => exact h
  | nested collection inner ih => exact ⟨h.1.uses, ih h.2⟩

namespace Backend.Keeps

variable {backend : Backend ι Q} {c : Compiler ι} {Asked : Target ι → Test → Prop}
  {P : Built Q → Prop}

/-- No account is kept of places. -/
theorem keepsAt (hkeeps : backend.Keeps c.mapper Asked P) :
    backend.KeepsAt c.mapper ⟨(), fun _ _ => ()⟩ (fun _ => Asked) (fun _ => P) where
  always _ := hkeeps.always
  never _ := hkeeps.never
  leaf hasked h := hkeeps.leaf hasked h
  join conjunction := fun hl hr => hkeeps.join conjunction hl hr
  any hopens hbuilt h := hkeeps.any hopens.uses hbuilt h
  enter_eq _ _ := rfl

/-- What the backend keeps holds of the query of an expression. -/
theorem has_of_yields (hkeeps : backend.Keeps c.mapper Asked P) {grouped : Bool} {e : Expr}
    {part : Part ι Q} {unfit : List UnfitValue} (h : c.Yields backend grouped e part unfit)
    (hasked : ∀ q ∈ e.comparisons, ∀ target test, c.Requires q target test → Asked target test) :
    part.Has c.mapper P := by
  have hpart := hkeeps.keepsAt.has_of_yields h fun q hq _ target test hrequires =>
    hasked q hq target test hrequires.requires
  exact hpart.has

/-- What the backend keeps holds of the query of a filter. -/
theorem of_build (hkeeps : backend.Keeps c.mapper Asked P) {tree : FilterTree} {built : Built Q}
    (h : c.build backend tree = .ok built)
    (hasked : ∀ q ∈ tree.root.comparisons, ∀ target test, c.Requires q target test →
      Asked target test) : P built :=
  hkeeps.keepsAt.of_build h fun q hq _ target test hrequires =>
    hasked q hq target test hrequires.requires

end Backend.Keeps

/-- The open conditions of a compiled expression are on collections of the mapper. -/
theorem Compiler.isFrom_of_yields {backend : Backend ι Q} {c : Compiler ι} {grouped : Bool}
    {e : Expr} {part : Part ι Q} {unfit : List UnfitValue}
    (h : c.Yields backend grouped e part unfit) : part.IsFrom c.mapper := by
  have hkeeps : backend.Keeps c.mapper (fun _ _ => True) (fun _ => True) := by
    constructor <;> simp
  exact (hkeeps.has_of_yields h (by simp)).isFrom

end FilterQuery
