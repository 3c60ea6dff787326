import FilterQuery.Proofs.Compilable
import FilterQuery.Proofs.DocumentMeaning
import FilterQuery.Proofs.Validation

/-!
# Filters that have a document

Two things cannot be expressed in a query document: a field with an index, and a custom operator
without a template. Both are found out when a leaf is made, and a filter that has a predicate has a
document unless it has such a leaf. A comparison whose literal does not convert has no leaf, so there
the index is not found out.

## Key results

- `exists_leaf_iff`: the conditions that can be expressed
- `Backend.Quantifies.exists_expr_iff`: compiling an expression is compiling its comparisons
- `exists_document_iff`: the filters that have a document
- `document_of_indexed_flag`: a filter on an indexed field that has one
-/

namespace FilterQuery

variable {ι Q : Type}

/-! ## Comparisons one by one. -/

/-- Whether the backend can always ask for an element of a collection. -/
def Backend.Quantifies (backend : Backend ι Q) : Prop :=
  ∀ collection inner nullGuard, ∃ query, backend.any collection inner nullGuard = .ok query

theorem quantifies_predicateBackend : (predicateBackend ι).Quantifies := fun _ _ _ => ⟨_, rfl⟩

theorem quantifies_documentBackend : (documentBackend ι).Quantifies := fun _ _ _ => ⟨_, rfl⟩

namespace Compiler

variable {c : Compiler ι} {backend : Backend ι Q}

/-- A way can be followed iff the leaf at its end can be made. -/
theorem exists_alongChain_iff {target : (ι → Value) → Target ι} {condition : Condition}
    {chain : Chain ι} :
    (∃ part, alongChain backend target condition chain = .ok part) ↔
      ∃ query, leaf backend (target chain.readLast) condition = .ok query := by
  induction chain with
  | value read =>
    constructor
    · rintro ⟨part, h⟩
      obtain ⟨query, hquery, -⟩ := bind_eq_ok.1 h
      exact ⟨query, hquery⟩
    · rintro ⟨query, hquery⟩
      exact ⟨_, bind_eq_ok.2 ⟨query, hquery, rfl⟩⟩
  | each path elements inner ih =>
    rw [Chain.readLast, ← ih]
    constructor
    · rintro ⟨part, h⟩
      obtain ⟨inside, hinside, -⟩ := bind_eq_ok.1 h
      exact ⟨inside, hinside⟩
    · rintro ⟨inside, hinside⟩
      exact ⟨_, bind_eq_ok.2 ⟨inside, hinside, rfl⟩⟩

/-- The leaf for a condition can be made iff each of its tests can. -/
theorem exists_leaf_iff {target : Target ι} {condition : Condition} :
    (∃ query, leaf backend target condition = .ok query) ↔
      ∀ test ∈ condition.tests, ∃ query, backend.leaf target test = .ok query := by
  -- Whatever is made of two leaves, it is made iff both of them are.
  have hpair : ∀ (first second : Test) (join : Q → Q → Q),
      (∃ query, (do return join (← backend.leaf target first) (← backend.leaf target second)) =
          Except.ok query) ↔
        ∀ test ∈ [first, second], ∃ query, backend.leaf target test = .ok query := by
    intro first second join
    rw [List.forall_mem_cons, List.forall_mem_singleton]
    simp only [bind_pair_eq_ok_iff]
    constructor
    · rintro ⟨_, l, r, hl, hr, -⟩
      exact ⟨⟨l, hl⟩, r, hr⟩
    · rintro ⟨⟨l, hl⟩, r, hr⟩
      exact ⟨_, l, r, hl, hr, rfl⟩
  cases condition with
  | test only =>
    rw [Condition.tests, List.forall_mem_singleton]
    rfl
  | either first second => exact hpair first second backend.or
  | both first second => exact hpair first second backend.and
  | never unfit => exact iff_of_true ⟨_, rfl⟩ (by simp [Condition.tests])

/-- An accessor has a part iff the comparison gives a condition for it and all its tests can be made
at the end of the way. -/
theorem exists_accessorPart_iff {map : FieldMap ι} {q : Comparison} {accessor : Accessor ι} :
    (∃ p, c.accessorPart backend map q.name q.index q.op q.raw q.ignoreCase accessor = .ok p) ↔
      ∃ condition, Condition.of c.mapper.config c.operators map accessor q.name q.op q.raw
          q.ignoreCase = .ok condition ∧
        ∀ test ∈ condition.tests, ∃ query, backend.leaf
          (q.target accessor accessor.chain.readLast) test = .ok query := by
  simp only [← exists_leaf_iff]
  have hchain : ∀ condition, (∃ part, alongChain backend
      (fun read => ⟨q.name, accessor.path.getD q.name, accessor.kind, accessor.nullable, q.index,
        read⟩) condition accessor.chain = .ok part) ↔
      ∃ query, leaf backend (q.target accessor accessor.chain.readLast) condition = .ok query :=
    fun condition => exists_alongChain_iff
  constructor
  · rintro ⟨p, h⟩
    obtain ⟨condition, hcondition, h⟩ := bind_eq_ok.1 h
    refine ⟨condition, hcondition, ?_⟩
    cases condition with
    | never unfit => exact ⟨_, rfl⟩
    | _ =>
      obtain ⟨part, hpart, -⟩ := bind_eq_ok.1 h
      exact (hchain _).1 ⟨part, hpart⟩
  · rintro ⟨condition, hcondition, hleaf⟩
    cases condition with
    | never unfit => exact ⟨_, bind_eq_ok.2 ⟨_, hcondition, rfl⟩⟩
    | _ =>
      obtain ⟨part, hpart⟩ := (hchain _).2 hleaf
      exact ⟨_, bind_eq_ok.2 ⟨_, hcondition, bind_eq_ok.2 ⟨part, hpart, rfl⟩⟩⟩

end Compiler

namespace Backend.Quantifies

open Compiler

variable {c : Compiler ι} {backend : Backend ι Q}

theorem exists_finish (hany : backend.Quantifies) (part : Part ι Q) :
    ∃ built, c.finish backend part = .ok built := by
  induction part with
  | closed built => exact ⟨built, rfl⟩
  | nested collection inner ih =>
    obtain ⟨built, hbuilt⟩ := ih
    obtain ⟨query, hquery⟩ := hany collection built.query c.mapper.config.collectionNullGuard
    exact ⟨_, bind_eq_ok.2 ⟨built, hbuilt, bind_eq_ok.2 ⟨query, hquery, rfl⟩⟩⟩

theorem exists_joinFinished (hany : backend.Quantifies) (conjunction : Conjunction)
    (l r : Part ι Q) : ∃ part, c.joinFinished backend conjunction l r = .ok part := by
  obtain ⟨left, hleft⟩ := hany.exists_finish (c := c) l
  obtain ⟨right, hright⟩ := hany.exists_finish (c := c) r
  exact ⟨_, bind_eq_ok.2 ⟨left, hleft, bind_eq_ok.2 ⟨right, hright, rfl⟩⟩⟩

theorem exists_combine (hany : backend.Quantifies) (conjunction : Conjunction) (grouped : Bool)
    (l r : Part ι Q) : ∃ part, c.combine backend conjunction grouped l r = .ok part := by
  induction l generalizing r with
  | closed built =>
    rw [combine_closed_left]
    exact hany.exists_joinFinished ..
  | nested s l ih =>
    cases r with
    | closed built =>
      rw [combine_closed_right]
      exact hany.exists_joinFinished ..
    | nested t r =>
      rw [combine]
      split
      · obtain ⟨inner, hinner⟩ := ih r
        exact ⟨_, bind_eq_ok.2 ⟨inner, hinner, rfl⟩⟩
      · exact hany.exists_joinFinished ..

theorem exists_anyPart (hany : backend.Quantifies) (first : Part ι Q) (rest : List (Part ι Q)) :
    ∃ part, c.anyPart backend first rest = .ok part := by
  cases rest with
  | nil => exact ⟨first, rfl⟩
  | cons next rest =>
    obtain ⟨built, hbuilt⟩ := hany.exists_finish (c := c) first
    obtain ⟨builts, hbuilts⟩ :=
      exists_mapM (next :: rest) fun part _ => hany.exists_finish (c := c) part
    exact ⟨_, bind_eq_ok.2 ⟨built, hbuilt, bind_eq_ok.2 ⟨builts, hbuilts, rfl⟩⟩⟩

/-- A comparison of a known field is compiled iff each of the accessors has a part. -/
theorem exists_comparison_iff (hany : backend.Quantifies) {q : Comparison} {map : FieldMap ι}
    (hmap : c.mapper.find? q.name = some map) :
    (∃ result, c.comparison backend q.name q.index q.op q.raw q.ignoreCase = .ok result) ↔
      ∃ first rest, map.accessors q.index = .ok (first, rest) ∧ ∀ accessor ∈ first :: rest,
        ∃ p, c.accessorPart backend map q.name q.index q.op q.raw q.ignoreCase accessor = .ok p := by
  constructor
  · rintro ⟨⟨part, unfit⟩, h⟩
    obtain ⟨first, rest, p, ps, haccessors, hp, hps, -, -⟩ := parts_of_comparison hmap h
    refine ⟨first, rest, haccessors, List.forall_mem_cons.2 ⟨⟨p, hp⟩, ?_⟩⟩
    clear haccessors
    induction hps with
    | nil => simp
    | cons hhead _ ih => exact List.forall_mem_cons.2 ⟨⟨_, hhead⟩, ih⟩
  · rintro ⟨first, rest, haccessors, hparts⟩
    obtain ⟨⟨p, hp⟩, hrest⟩ := List.forall_mem_cons.1 hparts
    obtain ⟨ps, hps⟩ := exists_mapM rest hrest
    obtain ⟨part, hjoin⟩ := hany.exists_anyPart (c := c) p.1 (ps.map (·.1))
    exact ⟨_, comparison_of_parts hmap haccessors hp hps hjoin⟩

/-- What one backend makes a query of, another one makes a query of as well, if it does of each
comparison. -/
theorem exists_expr_iff {R : Type} {other : Backend ι R} (hany : backend.Quantifies)
    {grouped : Bool} {e : Expr} {part : Part ι R} {unfit : List UnfitValue}
    (h : c.Yields other grouped e part unfit) :
    (∃ part unfit, c.Yields backend grouped e part unfit) ↔ ∀ q ∈ e.comparisons,
      ∃ result, c.comparison backend q.name q.index q.op q.raw q.ignoreCase = .ok result := by
  induction h with
  | group _ ih =>
    refine Iff.trans ⟨?_, ?_⟩ ih
    · rintro ⟨part, unfit, ⟨h⟩⟩
      exact ⟨part, unfit, h⟩
    · rintro ⟨part, unfit, h⟩
      exact ⟨part, unfit, .group h⟩
  | @logical grouped _ _ conjunction _ _ _ _ _ _ _ _ ihl ihr =>
    rw [Expr.comparisons, List.forall_mem_append, ← ihl, ← ihr]
    constructor
    · rintro ⟨part, unfit, h⟩
      cases h with
      | logical hleft hright _ => exact ⟨⟨_, _, hleft⟩, _, _, hright⟩
    · rintro ⟨⟨l, us, hleft⟩, r, vs, hright⟩
      obtain ⟨part, hjoin⟩ := hany.exists_combine (c := c) conjunction grouped l r
      exact ⟨part, us ++ vs, .logical hleft hright hjoin⟩
  | comparison _ =>
    rw [Expr.comparisons, List.forall_mem_singleton]
    constructor
    · rintro ⟨part, unfit, h⟩
      cases h with
      | comparison h => exact ⟨_, h⟩
    · rintro ⟨⟨part, unfit⟩, h⟩
      exact ⟨part, unfit, .comparison h⟩

/-- With validation, the filters that one backend makes a query of have no bad values for another
one either. -/
theorem exists_build_iff {R : Type} {other : Backend ι R} (hany : backend.Quantifies)
    {tree : FilterTree} {built : Built R} (h : c.build other tree = .ok built) :
    (∃ built, c.build backend tree = .ok built) ↔ ∀ q ∈ tree.root.comparisons,
      ∃ result, c.comparison backend q.name q.index q.op q.raw q.ignoreCase = .ok result := by
  obtain ⟨hvalid, part, unfit, hyields, -, hvalidate⟩ := build_eq_ok_iff.1 h
  rw [← hany.exists_expr_iff hyields]
  constructor
  · rintro ⟨built, h⟩
    obtain ⟨-, part, unfit, hyields, -⟩ := build_eq_ok_iff.1 h
    exact ⟨part, unfit, hyields⟩
  · rintro ⟨part', unfit', hyields'⟩
    obtain ⟨built', hfinish⟩ := hany.exists_finish (c := c) part'
    have hsame : unfit' = unfit := (unfit_of_yields hyields').trans (unfit_of_yields hyields).symm
    exact ⟨built', build_eq_ok_iff.2 ⟨hvalid, part', unfit', hyields', hfinish, hsame ▸ hvalidate⟩⟩

end Backend.Quantifies

/-! ## What documents can express. -/

/-- Whether a document has a form for the test. -/
def Test.hasTemplate : Test → Bool
  | custom op _ => op.document.isSome
  | _ => true

theorem Document.exists_leaf_iff {target : Target ι} {test : Test} :
    (∃ query, leaf target test = .ok query) ↔ target.index = none ∧ test.hasTemplate = true := by
  unfold leaf Test.hasTemplate
  cases target.index with
  | some index => simp
  | none =>
    cases test with
    | compare op literal ignoreCase => simp
    | null negated => cases negated <;> simp
    | custom op literal => cases hdocument : op.document <;> simp [hdocument]

/-- A condition without tests is one that no value satisfies. -/
theorem Condition.tests_eq_nil_iff {condition : Condition} :
    condition.tests = [] ↔ condition.unfit?.isSome = true := by
  cases condition <;> simp [tests, unfit?]

/-- With an index there is only one accessor. -/
theorem FieldMap.Offers.eq {map : FieldMap ι} {key : String} {a b : Accessor ι}
    (ha : map.Offers (some key) a) (hb : map.Offers (some key) b) : a = b := by
  unfold Offers at ha hb
  cases hmapping : map.mapping <;> simp only [hmapping] at ha hb
  exact ha.trans hb.symm

namespace Compiler

variable {c : Compiler ι}

/-- Whether a document can say what the comparison says: if its field is there, it takes no index
unless the literal does not convert, and a custom operator has a template. -/
structure IsExpressible (c : Compiler ι) (q : Comparison) : Prop where
  indexed : ∀ map, c.mapper.find? q.name = some map → map.isParametrized = true →
    (c.badValue? q).isSome = true
  templated : ∀ map, c.mapper.find? q.name = some map → ∀ symbol, q.op = .custom symbol →
    ∃ operator, c.operators.find? symbol = some operator ∧ operator.document.isSome = true

/-- A comparison asks nothing of a value exactly if the accessor rejects the literal. -/
theorem tests_eq_nil_iff_rejects {map : FieldMap ι} {q : Comparison} {accessor : Accessor ι}
    {condition : Condition}
    (h : Condition.of c.mapper.config c.operators map accessor q.name q.op q.raw q.ignoreCase =
      .ok condition) :
    condition.tests = [] ↔ c.rejects map q accessor = true := by
  rw [Condition.tests_eq_nil_iff, unfit?_of_condition h]
  cases c.rejects map q accessor <;> simp

/-- All tests of a condition have a form iff its operator, if it is a custom one, has a template. -/
theorem forall_hasTemplate_iff {map : FieldMap ι} {q : Comparison} {accessor : Accessor ι}
    {condition : Condition}
    (h : Condition.of c.mapper.config c.operators map accessor q.name q.op q.raw q.ignoreCase =
      .ok condition) :
    (∀ test ∈ condition.tests, test.hasTemplate = true) ↔ ∀ symbol, q.op = .custom symbol →
      ∃ operator, c.operators.find? symbol = some operator ∧
        operator.document.isSome = true := by
  by_cases hcustom : ∃ symbol, q.op = .custom symbol
  · obtain ⟨symbol, hop⟩ := hcustom
    simp only [Condition.of, hop] at h
    cases hfind : c.operators.find? symbol with
    | none => simp [hfind] at h
    | some operator =>
      simp only [hfind, Except.ok.injEq] at h
      subst h
      simp [Condition.tests, Test.hasTemplate, hop, hfind]
  · have hop : ∀ symbol, q.op ≠ .custom symbol := not_exists.1 hcustom
    refine iff_of_true (fun test htest => ?_) fun symbol heq => absurd heq (hop symbol)
    have hmem : q.op ∈ Operator.builtin := by
      cases heq : q.op with
      | custom symbol => exact absurd heq (hop symbol)
      | _ => decide
    have hbuiltin : test.isBuiltin = true :=
      isBuiltin_of_asks hmem ⟨map, accessor, q.name, q.raw, q.ignoreCase, condition, h, htest⟩
    cases test with
    | custom op literal => cases hbuiltin
    | _ => rfl

/-- An accessor has a part of a document iff it has one of a predicate and what is asked of it can be
expressed. -/
theorem exists_accessorPart_document_iff {map : FieldMap ι} {q : Comparison}
    {accessor : Accessor ι} :
    (∃ p, c.accessorPart (documentBackend ι) map q.name q.index q.op q.raw q.ignoreCase accessor =
        .ok p) ↔
      (∃ p, c.accessorPart (predicateBackend ι) map q.name q.index q.op q.raw q.ignoreCase
        accessor = .ok p) ∧
      (q.index.isSome = true → c.rejects map q accessor = true) ∧
      ∀ symbol, q.op = .custom symbol → ∃ operator, c.operators.find? symbol = some operator ∧
        operator.document.isSome = true := by
  rw [exists_accessorPart_iff, exists_accessorPart_iff]
  constructor
  · rintro ⟨condition, hcondition, hleaves⟩
    have htests : ∀ test ∈ condition.tests, q.index = none ∧ test.hasTemplate = true :=
      fun test htest => Document.exists_leaf_iff.1 (hleaves test htest)
    refine ⟨⟨condition, hcondition, fun _ _ => ⟨_, rfl⟩⟩, fun hindex => ?_,
      (forall_hasTemplate_iff hcondition).1 fun test htest => (htests test htest).2⟩
    -- With an index there can be no test.
    have hnone : condition.tests = [] := by
      refine List.eq_nil_iff_forall_not_mem.2 fun test htest => ?_
      simp [(htests test htest).1] at hindex
    exact (tests_eq_nil_iff_rejects hcondition).1 hnone
  · rintro ⟨⟨condition, hcondition, -⟩, hindexed, htemplated⟩
    refine ⟨condition, hcondition, fun test htest => Document.exists_leaf_iff.2 ⟨?_, ?_⟩⟩
    · by_contra hindex
      have hrejects := hindexed (Option.isSome_iff_ne_none.2 hindex)
      simp [(tests_eq_nil_iff_rejects hcondition).2 hrejects] at htest
    · exact (forall_hasTemplate_iff hcondition).2 htemplated test htest

/-- A comparison is compiled to a document iff it is compiled to a predicate and can be
expressed. -/
theorem exists_comparison_document_iff (q : Comparison) :
    (∃ result, c.comparison (documentBackend ι) q.name q.index q.op q.raw q.ignoreCase =
        .ok result) ↔
      (∃ result, c.comparison (predicateBackend ι) q.name q.index q.op q.raw q.ignoreCase =
        .ok result) ∧ c.IsExpressible q := by
  cases hmap : c.mapper.find? q.name with
  | none =>
    have hexpressible : c.IsExpressible q := ⟨by simp [hmap], by simp [hmap]⟩
    simp only [comparison, hmap, hexpressible, and_true]
    split <;> simp
  | some map =>
    rw [quantifies_documentBackend.exists_comparison_iff hmap,
      quantifies_predicateBackend.exists_comparison_iff hmap]
    simp only [exists_accessorPart_document_iff]
    constructor
    · rintro ⟨first, rest, haccessors, hparts⟩
      obtain ⟨-, hindexed, htemplated⟩ := hparts first (by simp)
      refine ⟨⟨first, rest, haccessors, fun accessor ha => (hparts accessor ha).1⟩, ?_, ?_⟩
      · intro map' hmap' hparametrized
        cases hmap.symm.trans hmap'
        have hindex : q.index.isSome = true := by
          rw [(map.decides_accessors q.index).iff.1 ⟨_, haccessors⟩, hparametrized]
        simp [badValue?, hmap, haccessors, hindexed hindex]
      · intro map' hmap'
        cases hmap.symm.trans hmap'
        exact htemplated
    · rintro ⟨⟨first, rest, haccessors, hparts⟩, hexpressible⟩
      refine ⟨first, rest, haccessors, fun accessor ha => ⟨hparts accessor ha, fun hindex => ?_,
        hexpressible.templated map hmap⟩⟩
      have hparametrized : map.isParametrized = true := by
        rw [← (map.decides_accessors q.index).iff.1 ⟨_, haccessors⟩, hindex]
      have hbad := hexpressible.indexed map hmap hparametrized
      simp only [badValue?, hmap, haccessors, Option.isSome_map, List.find?_isSome] at hbad
      obtain ⟨other, hother, hrejects⟩ := hbad
      -- The accessor that rejects the literal is the only one.
      obtain ⟨key, hkey⟩ := Option.isSome_iff_exists.1 hindex
      have hsame : accessor = other := by
        have hoffers := (mem_accessors haccessors accessor).1 ha
        have hoffers' := (mem_accessors haccessors other).1 hother
        rw [hkey] at hoffers hoffers'
        exact hoffers.eq hoffers'
      rw [hsame, hrejects]

/-- A filter is compiled to a document iff it is compiled to a predicate and each of its comparisons
can be expressed. -/
theorem exists_document_iff (c : Compiler ι) (tree : FilterTree) :
    (∃ document, c.build (documentBackend ι) tree = .ok document) ↔
      (∃ built, c.build (predicateBackend ι) tree = .ok built) ∧
        ∀ q ∈ tree.root.comparisons, c.IsExpressible q := by
  constructor
  · rintro ⟨document, hdocument⟩
    have hall := (quantifies_documentBackend.exists_build_iff hdocument).1 ⟨document, hdocument⟩
    have hboth := fun q hq => (exists_comparison_document_iff q).1 (hall q hq)
    exact ⟨(quantifies_predicateBackend.exists_build_iff hdocument).2 fun q hq => (hboth q hq).1,
      fun q hq => (hboth q hq).2⟩
  · rintro ⟨⟨built, hbuilt⟩, hexpressible⟩
    have hall := (quantifies_predicateBackend.exists_build_iff hbuilt).1 ⟨built, hbuilt⟩
    exact (quantifies_documentBackend.exists_build_iff hbuilt).2 fun q hq =>
      (exists_comparison_document_iff q).2 ⟨hall q hq, hexpressible q hq⟩

/-- Filters on items with flags, which are looked up by a key. -/
def flagCompiler : Compiler (List (String × Bool)) where
  mapper := {
    config := { caseSensitiveNames := true }
    maps := [{
      name := "flag"
      mapping := .parametrized fun key => .computed .bool true fun flags =>
        ((flags.lookup key).map Value.bool).getD .absent }]
    operators := .empty }

/-- Whether the flag of the key is `draft` is as the text says. -/
def draftIs (raw : String) : Comparison := ⟨"flag", some "draft", .equal, raw, false⟩

/-- An indexed field has no place in a document, and yet a comparison with it is compiled to one if
its literal does not convert. -/
theorem document_of_indexed_flag :
    ∃ document map, flagCompiler.build (documentBackend _) ⟨(draftIs "maybe").expr, []⟩ =
        .ok document ∧
      draftIs "maybe" ∈ (draftIs "maybe").expr.comparisons ∧
      flagCompiler.mapper.find? "flag" = some map ∧ map.isParametrized = true :=
  ⟨_, _, rfl, List.mem_singleton.2 rfl, rfl, rfl⟩

end Compiler

end FilterQuery
