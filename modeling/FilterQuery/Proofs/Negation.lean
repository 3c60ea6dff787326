import FilterQuery.Proofs.SharedElements
import FilterQuery.Proofs.StableSort

/-!
# Negated filters

A comparison with a negated operator asks of a value what the comparison with the positive operator
does not ask of it, be the value missing or of another kind than the literal. The two may be
compiled to conditions of different shapes, but they have the same literal, so that both of them fit
or neither does. Of a field outside all collections an item has exactly one value: it is found by
one of the two, and whole filters on such fields are negated by negating their comparisons and
exchanging their conjunctions.

## Key results

- `satisfies_iff_not_positive`: what a negated comparison asks of a value
- `meansAt_negated_iff`: what a negated expression says of an element
- `accepts_negated`: a negated filter finds the items that the filter does not find
- `negation_partitions`: the case of a single comparison
-/

namespace FilterQuery

variable {ι : Type}

/-! ## Negated comparisons. -/

theorem Operator.positive_eq_custom_iff {op : Operator} {name : String} :
    op.positive = .custom name ↔ op = .custom name := by
  cases op <;> simp [positive]

/-- The comparison that one with a negated operator negates; any other comparison itself. -/
def Comparison.positive (q : Comparison) : Comparison := { q with op := q.op.positive }

namespace Comparison

variable {q : Comparison}

theorem isEquality_positive (q : Comparison) : q.positive.isEquality = q.isEquality := by
  obtain ⟨name, index, op, raw, ignoreCase⟩ := q
  cases op <;> rfl

theorem isBare_positive (q : Comparison) : q.positive.isBare = q.isBare :=
  congrArg (· && q.raw == "") q.isEquality_positive

theorem isWithKeyword_positive (q : Comparison) (config : MapperConfig) :
    q.positive.isWithKeyword config = q.isWithKeyword config := by
  unfold isWithKeyword
  rw [isEquality_positive]
  rfl

/-- Of the negated operators one is about equality. -/
theorem op_of_isEquality (hneg : q.op.isNegated = true) (h : q.isEquality = true) :
    q.op = .notEqual ∧ q.positive.op = .equal := by
  have hne : q.op = .notEqual := by
    simp only [isEquality, Bool.or_eq_true, beq_iff_eq] at h
    refine h.resolve_left fun hequal => ?_
    rw [hequal] at hneg
    cases hneg
  exact ⟨hne, congrArg Operator.positive hne⟩

end Comparison

/-- The text of a literal is read alike for both operators. -/
theorem Condition.literal?_positive (config : MapperConfig)
    (convertor : Option (String → Option Value)) (kind : FieldKind) (op : Operator) (raw : String) :
    literal? config convertor kind op.positive raw = literal? config convertor kind op raw := by
  unfold literal?
  rw [Operator.isText_positive]

theorem satisfiesBare_notEqual_iff {kind : FieldKind} {nullable : Bool} {v : Value} :
    SatisfiesBare .notEqual kind nullable v ↔ ¬SatisfiesBare .equal kind nullable v := by
  simp [SatisfiesBare]

namespace Compiler

variable {c : Compiler ι} {map : FieldMap ι} {accessor : Accessor ι} {q : Comparison}

theorem Compares.positive (h : c.Compares q map accessor) : c.Compares q.positive map accessor :=
  ⟨h.mapped, h.only⟩

/-- The literals of both comparisons fit, or neither does. -/
theorem fits_positive_iff : c.Fits map accessor q.positive ↔ c.Fits map accessor q := by
  have hop : q.positive.op = q.op.positive := rfl
  unfold Fits
  rw [q.isBare_positive, q.isWithKeyword_positive, hop]
  cases hq : q.op <;> simp only [Operator.positive] <;> rfl

/-- A comparison with a negated operator asks of a value what its positive counterpart does not ask
of it. -/
theorem satisfies_iff_not_positive (hneg : q.op.isNegated = true) (hfits : c.Fits map accessor q)
    (v : Value) : c.Satisfies map accessor q v ↔ ¬c.Satisfies map accessor q.positive v := by
  have hop : ∀ symbol, q.op ≠ .custom symbol := by
    intro symbol hop
    rw [hop] at hneg
    cases hneg
  have hpositive : ∀ symbol, q.positive.op ≠ .custom symbol :=
    fun symbol h => hop symbol (Operator.positive_eq_custom_iff.1 h)
  rw [satisfies_builtin_iff hop, satisfies_builtin_iff hpositive, q.isBare_positive,
    q.isWithKeyword_positive]
  by_cases hbare : q.isBare = true
  · obtain ⟨hne, heq⟩ := Comparison.op_of_isEquality hneg (Bool.and_eq_true_iff.1 hbare).1
    rw [if_pos hbare, if_pos hbare, hne, heq]
    exact satisfiesBare_notEqual_iff
  · rw [if_neg hbare, if_neg hbare]
    by_cases hkeyword : q.isWithKeyword c.mapper.config = true
    · have hequality : q.isEquality = true := by
        simp only [Comparison.isWithKeyword, Bool.and_eq_true] at hkeyword
        exact hkeyword.1.1.1
      obtain ⟨hne, heq⟩ := Comparison.op_of_isEquality hneg hequality
      rw [if_pos hkeyword, if_pos hkeyword, hne, heq]
      simp
    · -- Both tests are made with the same literal, and there is one.
      obtain ⟨literal, hliteral⟩ := exists_literal_of_fits hfits hop hbare hkeyword
      have hsame : Condition.literal? c.mapper.config map.convertor accessor.kind q.positive.op
          q.positive.raw = some literal := (Condition.literal?_positive _ _ _ _ _).trans hliteral
      rw [if_neg hkeyword, if_neg hkeyword, hliteral, hsame]
      simp only [Option.some.injEq, exists_eq_left', Test.accepts_compare_negated hneg,
        Bool.not_eq_true', Bool.not_eq_true]
      exact Iff.rfl

end Compiler

/-! ## Negated expressions. -/

/-- The other conjunction. -/
def Conjunction.dual : Conjunction → Conjunction
  | .and => .or
  | .or => .and

theorem Conjunction.joins_dual_iff (conjunction : Conjunction) (p q : Prop) :
    conjunction.dual.Joins (¬p) (¬q) ↔ ¬conjunction.Joins p q := by
  cases conjunction with
  | and => exact not_and_or.symm
  | or => exact not_or.symm

/-- Whether the second expression is the first one with all comparisons negated and all conjunctions
exchanged. -/
inductive Expr.Negated : Expr → Expr → Prop
  | positive {q : Comparison} (hneg : q.op.isNegated = true) : Negated q.positive.expr q.expr
  | negative {q : Comparison} (hneg : q.op.isNegated = true) : Negated q.expr q.positive.expr
  | logical {left right left' right' : Expr} {conjunction : Conjunction}
      (hleft : Negated left left') (hright : Negated right right') :
      Negated (.logical left conjunction right) (.logical left' conjunction.dual right')
  | group {inner inner' : Expr} (h : Negated inner inner') :
      Negated (.group inner) (.group inner')

namespace Compiler

variable {c : Compiler ι} {paths : List String} {e e' : Expr}

/-- The comparison with the positive operator follows the same way. -/
theorem follows_positive_iff {q : Comparison} :
    c.Follows paths q.positive.expr ↔ c.Follows paths q.expr := by
  constructor
  · intro h
    cases h with
    | comparison h hfits hpaths =>
      have hq : c.Compares q _ _ := ⟨h.mapped, h.only⟩
      exact .comparison hq (fits_positive_iff.1 hfits) hpaths
  · intro h
    cases h with
    | comparison h hfits hpaths =>
      exact .comparison h.positive (fits_positive_iff.2 hfits) hpaths

theorem Follows.negated (h : c.Follows paths e) (hnegated : e.Negated e') :
    c.Follows paths e' := by
  induction hnegated with
  | positive _ => exact follows_positive_iff.1 h
  | negative _ => exact follows_positive_iff.2 h
  | logical _ _ ihl ihr =>
    cases h with
    | logical hleft hright => exact .logical (ihl hleft) (ihr hright)
  | group _ ih =>
    cases h with
    | group h => exact .group (ih h)

/-- A negated comparison says of an element what the positive one does not say of it. -/
theorem meansAt_iff_not_positive {q : Comparison} (hneg : q.op.isNegated = true)
    (h : c.Follows paths q.expr) (element : ι) :
    c.MeansAt q.expr element ↔ ¬c.MeansAt q.positive.expr element := by
  cases h with
  | @comparison _ _ _ _ _ map accessor h hfits _ =>
    have hq : c.Compares q map accessor := h
    rw [meansAt_comparison hq, meansAt_comparison hq.positive]
    exact satisfies_iff_not_positive hneg hfits _

/-- At each element, a negated expression says what the expression does not say. -/
theorem meansAt_negated_iff (hnegated : e.Negated e') (h : c.Follows paths e) (element : ι) :
    c.MeansAt e' element ↔ ¬c.MeansAt e element := by
  induction hnegated with
  | positive hneg => exact meansAt_iff_not_positive hneg (follows_positive_iff.1 h) element
  | negative hneg => exact iff_not_comm.1 (meansAt_iff_not_positive hneg h element)
  | logical _ _ ihl ihr =>
    cases h with
    | logical hleft hright =>
      simp only [MeansAt]
      rw [← Conjunction.joins_dual_iff, ihl hleft, ihr hright]
  | group _ ih =>
    cases h with
    | group h => exact ih h

/-! ## Filters on fields outside all collections. -/

/-- Where no field is in a collection, the compiled expression is closed and says of an item what
the expression says of it, in parentheses or not. -/
theorem exists_yields_of_follows_nil (h : c.Follows [] e) (grouped : Bool) :
    ∃ built, c.Yields (predicateBackend ι) grouped e (.closed built) [] ∧
      ∀ item, built.query item = true ↔ c.MeansAt e item := by
  induction h generalizing grouped with
  | group _ ih =>
    obtain ⟨built, hyields, hmeans⟩ := ih true
    exact ⟨built, .group hyields, hmeans⟩
  | @logical _ _ conjunction _ _ ihl ihr =>
    obtain ⟨l, hl, hlmeans⟩ := ihl grouped
    obtain ⟨r, hr, hrmeans⟩ := ihr grouped
    obtain ⟨built, hjoin, hholds⟩ := c.exists_joinFinished conjunction (.closed l) (.closed r)
    refine ⟨built, .logical hl hr ?_, fun item => ?_⟩
    · rw [combine_closed_left, hjoin]
    · rw [hholds]
      simp only [Part.Holds, hlmeans, hrmeans, MeansAt]
  | comparison h hfits hpaths =>
    obtain ⟨part, hpart, hpartPaths, hcore⟩ := exists_comparison h hfits
    cases part with
    | nested collection inner => cases hpartPaths.trans hpaths
    | closed built =>
      refine ⟨built, .comparison hpart, fun item => ?_⟩
      exact (hcore item).trans (meansAt_comparison h item).symm

theorem exists_build_of_follows_nil (h : c.Follows [] e) :
    ∃ built, c.build (predicateBackend ι) ⟨e, []⟩ = .ok built ∧
      ∀ item, built.accepts item = true ↔ c.MeansAt e item := by
  obtain ⟨built, hyields, hmeans⟩ := exists_yields_of_follows_nil h false
  exact ⟨built, build_eq_ok_iff.2 ⟨rfl, _, [], hyields, rfl, fun _ => rfl⟩, hmeans⟩

/-- Of a filter on fields outside all collections and the negated filter, exactly one finds each
item. -/
theorem accepts_negated (h : c.Follows [] e) (hnegated : e.Negated e') :
    ∃ yes no, c.build (predicateBackend ι) ⟨e, []⟩ = .ok yes ∧
      c.build (predicateBackend ι) ⟨e', []⟩ = .ok no ∧
      ∀ item, no.accepts item = !yes.accepts item := by
  obtain ⟨yes, hyes, hyesMeans⟩ := exists_build_of_follows_nil h
  obtain ⟨no, hno, hnoMeans⟩ := exists_build_of_follows_nil (h.negated hnegated)
  refine ⟨yes, no, hyes, hno, fun item => ?_⟩
  rw [Bool.eq_iff_iff, hnoMeans, meansAt_negated_iff hnegated h, ← hyesMeans, Bool.not_eq_true,
    Bool.not_eq_true']

/-- Of a field with a single accessor that goes through no collection, each item is found by exactly
one of the comparisons with a negated operator and with its positive counterpart, if the literal
fits. -/
theorem negation_partitions (c : Compiler ι) {map : FieldMap ι} {accessor : Accessor ι}
    {q : Comparison} (hq : c.Compares q map accessor) (hdirect : accessor.isNested = false)
    (hneg : q.op.isNegated = true) (hfits : c.Fits map accessor q) :
    ∃ yes no, c.build (predicateBackend ι) ⟨q.positive.expr, []⟩ = .ok yes ∧
      c.build (predicateBackend ι) ⟨q.expr, []⟩ = .ok no ∧
      ∀ item, no.accepts item = !yes.accepts item := by
  have hnone : accessor.chain.collections = [] := Chain.collections_eq_nil_iff.2 hdirect
  have hfollows : c.Follows [] q.expr := .comparison hq hfits hnone
  exact accepts_negated (follows_positive_iff.2 hfollows) (.positive hneg)

/-- Filters on numbers that may be missing. -/
def maybeNumberCompiler : Compiler (Option Int64) := { mapper := maybeNumberMapper }

/-- Whether a number is neither missing nor zero. -/
def numberIsSet : Comparison := ⟨"n", none, .notEqual, "", false⟩

/-- A missing number counts as one that is not set, three as one that is. -/
theorem negation_partitions_numbers :
    ∃ yes no,
      maybeNumberCompiler.build (predicateBackend _) ⟨numberIsSet.positive.expr, []⟩ = .ok yes ∧
      maybeNumberCompiler.build (predicateBackend _) ⟨numberIsSet.expr, []⟩ = .ok no ∧
      yes.accepts none = true ∧ no.accepts none = false ∧
      yes.accepts (some 3) = false ∧ no.accepts (some 3) = true := by
  have hfind : maybeNumberCompiler.mapper.find? "n" = some ⟨"n", .single maybeNumber, none⟩ := rfl
  have hq : maybeNumberCompiler.Compares numberIsSet ⟨"n", .single maybeNumber, none⟩ maybeNumber :=
    ⟨hfind, rfl⟩
  obtain ⟨yes, no, hyes, hno, hpartition⟩ :=
    negation_partitions maybeNumberCompiler hq rfl rfl (.inl (by decide))
  obtain ⟨built, hbuilt, hnone, hthree⟩ : ∃ built, maybeNumberCompiler.build (predicateBackend _)
      ⟨numberIsSet.positive.expr, []⟩ = .ok built ∧ built.accepts none = true ∧
      built.accepts (some 3) = false := ⟨_, rfl, by decide, by decide⟩
  cases hbuilt.symm.trans hyes
  refine ⟨yes, no, hyes, hno, hnone, ?_, hthree, ?_⟩
  · rw [hpartition, hnone, Bool.not_true]
  · rw [hpartition, hthree, Bool.not_false]

end Compiler

end FilterQuery
