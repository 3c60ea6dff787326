import FilterQuery.Proofs.Folding
import FilterQuery.Proofs.UnfitLiterals

/-!
# Ignoring case everywhere

A mapper may be set up to ignore the case of letters, and a value may carry the mark `/i`. Either
way strings are tested without regard to case, so a filter under the option comes to the same as the
filter with the mark behind every value without it. The exception is the keyword for missing values,
which is no keyword any more once it is marked.

## Key results

- `condition_ignoringCase`: under the option a comparison asks what it asks with the mark
- `build_ignoringCase_iff`: a filter under the option is compiled to what the marked filter is
-/

namespace FilterQuery

variable {ι Q : Type}

/-- The expression with the mark `/i` behind every value. -/
def Expr.marked : Expr → Expr
  | .logical left conjunction right => .logical left.marked conjunction right.marked
  | .comparison left op right => .comparison left.marked op right.marked
  | .group inner => .group inner.marked
  | .field name index => .field name index
  | .value raw _ => .value raw true

/-- The filter with the mark `/i` behind every value. -/
def FilterTree.marked (tree : FilterTree) : FilterTree := { tree with root := tree.root.marked }

namespace Compiler

/-- The compiler for the same fields under the option to ignore case. -/
def ignoringCase (c : Compiler ι) : Compiler ι where
  mapper := { c.mapper with config := { c.mapper.config with caseInsensitiveFiltering := true } }
  operators := c.operators
  validateValues := c.validateValues

variable {c : Compiler ι} {backend : Backend ι Q}

/-- Under the option a comparison asks of a value what it asks with the mark, unless it is one with
the keyword for missing values. -/
theorem condition_ignoringCase {q : Comparison}
    (hkeyword : q.isWithKeyword c.mapper.config = false) (map : FieldMap ι)
    (accessor : Accessor ι) :
    Condition.of c.ignoringCase.mapper.config c.ignoringCase.operators map accessor q.name q.op
        q.raw q.ignoreCase =
      Condition.of c.mapper.config c.operators map accessor q.name q.op q.raw true := by
  by_cases hcustom : ∃ symbol, q.op = .custom symbol
  · obtain ⟨symbol, hop⟩ := hcustom
    rw [hop]
    rfl
  · have hop : ∀ symbol, q.op ≠ .custom symbol := not_exists.1 hcustom
    let marked : Comparison := { q with ignoreCase := true }
    have hunmarked : q.isWithKeyword c.ignoringCase.mapper.config = false := hkeyword
    have hmarked : marked.isWithKeyword c.mapper.config = false := by
      simp [marked, Comparison.isWithKeyword]
    -- Strings are tested without regard to case on either side, and other kinds never are.
    have hignores : q.ignoresCase c.ignoringCase.mapper.config accessor.kind =
        marked.ignoresCase c.mapper.config accessor.kind := by
      simp [marked, Comparison.ignoresCase, ignoringCase]
    have hmark : Condition.of c.mapper.config c.operators map accessor q.name q.op q.raw true = _ :=
      condition_of_builtin (q := marked) hop
    rw [condition_of_builtin hop, hunmarked, hignores, hmark, hmarked]
    rfl

theorem accessorPart_ignoringCase {q : Comparison}
    (hkeyword : q.isWithKeyword c.mapper.config = false) (map : FieldMap ι)
    (accessor : Accessor ι) :
    c.ignoringCase.accessorPart backend map q.name q.index q.op q.raw q.ignoreCase accessor =
      c.accessorPart backend map q.name q.index q.op q.raw true accessor := by
  simp only [accessorPart, condition_ignoringCase hkeyword]

/-- Under the option a comparison is compiled to what it is compiled to with the mark. -/
theorem comparison_ignoringCase {q : Comparison}
    (hkeyword : q.isWithKeyword c.mapper.config = false) :
    c.ignoringCase.comparison backend q.name q.index q.op q.raw q.ignoreCase =
      c.comparison backend q.name q.index q.op q.raw true := by
  have hany : ∀ (first : Part ι Q) (rest : List (Part ι Q)),
      c.ignoringCase.anyPart backend first rest = c.anyPart backend first rest :=
    fun first rest => anyPart_congr (by rfl) first rest
  have hpart : ∀ map, c.ignoringCase.accessorPart backend map q.name q.index q.op q.raw
      q.ignoreCase = c.accessorPart backend map q.name q.index q.op q.raw true :=
    fun map => funext (accessorPart_ignoringCase hkeyword map)
  simp only [comparison, hany, hpart]
  rfl

/-- Up to errors, which may show the marks, an expression is compiled under the option to what it is
compiled to with marks. -/
theorem expr_ignoringCase (e : Expr)
    (hkeyword : ∀ q ∈ e.comparisons, q.isWithKeyword c.mapper.config = false) (grouped : Bool) :
    (c.ignoringCase.expr backend grouped e).toOption =
      (c.expr backend grouped e.marked).toOption := by
  induction e generalizing grouped with
  | group inner ih => exact ih hkeyword true
  | logical left conjunction right ihl ihr =>
    rw [Expr.comparisons, List.forall_mem_append] at hkeyword
    have hcombine : ∀ l r : Part ι Q, c.ignoringCase.combine backend conjunction grouped l r =
        c.combine backend conjunction grouped l r :=
      fun l r => combine_congr (by rfl) conjunction grouped l r
    simp only [Expr.marked, expr, toOption_bind, ihl hkeyword.1, ihr hkeyword.2, hcombine]
  | comparison left op right _ _ =>
    -- Only a field and a value can be compared, with marks or without.
    cases left with
    | field name index =>
      cases right with
      | value raw ignoreCase =>
        rw [Expr.comparisons, List.forall_mem_singleton] at hkeyword
        exact congrArg Except.toOption
          (comparison_ignoringCase (q := ⟨name, index, op, raw, ignoreCase⟩) hkeyword)
      | _ => rfl
    | _ => rfl
  | field name index => rfl
  | value raw ignoreCase => rfl

/-- Under the option to ignore case, a filter without the keyword for missing values is compiled iff
the filter with the mark `/i` behind every value is compiled without it, and to the same query. -/
theorem build_ignoringCase_iff (c : Compiler ι) (backend : Backend ι Q) (tree : FilterTree)
    (hkeyword : ∀ q ∈ tree.root.comparisons, q.isWithKeyword c.mapper.config = false)
    (built : Built Q) :
    c.ignoringCase.build backend tree = .ok built ↔ c.build backend tree.marked = .ok built := by
  have hyields : ∀ part unfit, c.ignoringCase.Yields backend false tree.root part unfit ↔
      c.Yields backend false tree.marked.root part unfit := by
    intro part unfit
    rw [← expr_eq_ok_iff, ← expr_eq_ok_iff, ← toOption_eq_some_iff, ← toOption_eq_some_iff,
      expr_ignoringCase tree.root hkeyword]
    rfl
  have hfinish : ∀ part : Part ι Q, c.ignoringCase.finish backend part = c.finish backend part :=
    fun part => finish_congr (by rfl) part
  simp only [build_eq_ok_iff, hyields, hfinish]
  rfl

/-- Whether there is an animal called Rex, in letters of either case, that is tame. -/
def tameRex : FilterTree where
  root := .group (.logical (animalIs "rex").expr .and (tameIs "TRUE").expr)

theorem build_ignoringCase_iff_animals :
    (∀ q ∈ tameRex.root.comparisons, q.isWithKeyword animalCompiler.mapper.config = false) ∧
      ∃ built, animalCompiler.ignoringCase.build (predicateBackend _) tameRex = .ok built ∧
        animalCompiler.build (predicateBackend _) tameRex.marked = .ok built ∧
        built.accepts [("Tom", false), ("Rex", true)] = true := by
  have hkeyword : ∀ q ∈ tameRex.root.comparisons,
      q.isWithKeyword animalCompiler.mapper.config = false := by decide
  obtain ⟨built, hbuilt, haccepts⟩ : ∃ built,
      animalCompiler.ignoringCase.build (predicateBackend _) tameRex = .ok built ∧
        built.accepts [("Tom", false), ("Rex", true)] = true := ⟨_, rfl, by decide⟩
  have hmarked := (build_ignoringCase_iff animalCompiler _ tameRex hkeyword built).1 hbuilt
  exact ⟨hkeyword, built, hbuilt, hmarked, haccepts⟩

-- With the mark the keyword is a name like any other, here that of an animal.
example :
    let unnamed : FilterTree :=
      { root := .comparison (.field "name" none) .notEqual (.value "null" false) }
    ∃ built built',
      animalCompiler.ignoringCase.build (predicateBackend _) unnamed = .ok built ∧
      animalCompiler.build (predicateBackend _) unnamed.marked = .ok built' ∧
      built.accepts [("null", true)] = true ∧ built'.accepts [("null", true)] = false :=
  ⟨_, _, rfl, rfl, by decide, by decide⟩

end Compiler

end FilterQuery
