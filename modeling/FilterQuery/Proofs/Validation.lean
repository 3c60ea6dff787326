import FilterQuery.Proofs.Meaning

/-!
# Validated literals

A compiler that validates literals makes the same queries and meets the same errors as one that does
not; only at the end it refuses a filter with literals that do not convert. `c.badValues e` lists
these without compiling anything: one entry for each comparison with an accessor that the literal
does not convert for, from left to right.

## Key results

- `unfit?_of_condition`: a condition reports a literal exactly if the accessor rejects it
- `unfit_of_yields`: an expression reports its bad values, in order and each comparison once
- `build_validating`: what validation adds to compiling
-/

namespace FilterQuery

variable {ι Q : Type}

/-! ## Bad values of an expression. -/

/-- Whether the comparison has a literal that is to be converted: custom operators take its text as
it is, and a comparison with nothing or with the keyword has none. -/
def Comparison.hasLiteral (q : Comparison) (config : MapperConfig) : Bool :=
  match q.op with
  | .custom _ => false
  | _ => !q.isBare && !q.isWithKeyword config

/-- The report of a literal that does not convert for the accessor. The kind tells what it was read
as, unless the field has a convertor. -/
def Comparison.report (q : Comparison) (map : FieldMap ι) (accessor : Accessor ι) : UnfitValue where
  field := q.name
  raw := q.raw
  kind := if map.convertor.isNone then some accessor.kind else none

namespace Compiler

/-- Whether the literal of the comparison does not convert for the accessor. Without a convertor
every text will do for operators on text. -/
def rejects (c : Compiler ι) (map : FieldMap ι) (q : Comparison) (accessor : Accessor ι) : Bool :=
  q.hasLiteral c.mapper.config &&
    match map.convertor with
    | some convert => (convert q.raw).isNone
    | none => !q.op.isText &&
        (Value.read? accessor.kind c.mapper.config.defaultOffset q.raw).isNone

/-- The report of a comparison whose literal some accessor rejects, which is about the first such
accessor. A field that is not there has no accessors. -/
def badValue? (c : Compiler ι) (q : Comparison) : Option UnfitValue :=
  match c.mapper.find? q.name with
  | none => none
  | some map =>
    match map.accessors q.index with
    | .error _ => none
    | .ok (first, rest) => ((first :: rest).find? (c.rejects map q)).map (q.report map)

/-- The reports of all comparisons, from left to right. -/
def badValues (c : Compiler ι) (e : Expr) : List UnfitValue := e.comparisons.filterMap c.badValue?

variable {c : Compiler ι} {backend : Backend ι Q}

/-! ## What the compiler reports. -/

/-- Without a literal to convert, or with one that converts, there is nothing to report. -/
theorem rejects_eq_true_iff {map : FieldMap ι} {q : Comparison} {accessor : Accessor ι} :
    c.rejects map q accessor = true ↔ q.hasLiteral c.mapper.config = true ∧
      Condition.literal? c.mapper.config map.convertor accessor.kind q.op q.raw = none := by
  unfold rejects Condition.literal?
  cases map.convertor with
  | some convert => simp
  | none => cases q.op.isText <;> simp

/-- A condition reports a literal exactly if the accessor rejects it. -/
theorem unfit?_of_condition {map : FieldMap ι} {accessor : Accessor ι} {q : Comparison}
    {condition : Condition}
    (h : Condition.of c.mapper.config c.operators map accessor q.name q.op q.raw q.ignoreCase =
      .ok condition) :
    condition.unfit? =
      if c.rejects map q accessor = true then some (q.report map accessor) else none := by
  simp only [rejects_eq_true_iff]
  by_cases hcustom : ∃ symbol, q.op = .custom symbol
  · obtain ⟨symbol, hop⟩ := hcustom
    have hliteral : q.hasLiteral c.mapper.config = false := by simp [Comparison.hasLiteral, hop]
    simp only [Condition.of, hop] at h
    cases hfind : c.operators.find? symbol with
    | none => simp [hfind] at h
    | some operator =>
      simp only [hfind, Except.ok.injEq] at h
      subst h
      simp [hliteral, Condition.unfit?]
  · have hop : ∀ symbol, q.op ≠ .custom symbol := not_exists.1 hcustom
    have hliteral : q.hasLiteral c.mapper.config =
        (!q.isBare && !q.isWithKeyword c.mapper.config) := by
      unfold Comparison.hasLiteral
      split
      · exact absurd ‹_› (hop _)
      · rfl
    rw [condition_of_builtin hop] at h
    cases h
    rw [hliteral]
    -- The forms of a comparison are tried in this order.
    by_cases hbare : q.isBare = true
    · have hunfit : (Condition.ofEmpty q.op accessor.kind accessor.nullable).unfit? = none := by
        unfold Condition.ofEmpty
        split <;> rfl
      simp [hbare, hunfit]
    · by_cases hkeyword : q.isWithKeyword c.mapper.config = true
      · simp [hbare, hkeyword, Condition.unfit?]
      · cases hread : Condition.literal? c.mapper.config map.convertor accessor.kind q.op
            q.raw <;>
          simp [hbare, hkeyword, Condition.unfit?, Comparison.report]

/-- The part for an accessor reports the literal exactly if the accessor rejects it. -/
theorem unfit_of_accessorPart {map : FieldMap ι} {accessor : Accessor ι} {q : Comparison}
    {p : Part ι Q × Option UnfitValue}
    (h : c.accessorPart backend map q.name q.index q.op q.raw q.ignoreCase accessor = .ok p) :
    p.2 = if c.rejects map q accessor = true then some (q.report map accessor) else none := by
  obtain ⟨condition, hcondition, h⟩ := bind_eq_ok.1 h
  rw [← unfit?_of_condition hcondition]
  cases condition with
  | never unfit =>
    cases h
    rfl
  | _ =>
    obtain ⟨part, -, h⟩ := bind_eq_ok.1 h
    cases h
    rfl

/-- Of the reports of several accessors the first one is kept. -/
theorem take_one_filterMap {α β : Type} (P : α → Bool) (f : α → β) (as : List α) :
    (as.filterMap fun a => if P a = true then some (f a) else none).take 1 =
      ((as.find? P).map f).toList := by
  induction as with
  | nil => rfl
  | cons a as ih => cases h : P a <;> simp [h, ih]

/-- A comparison reports its bad value, if it has one. -/
theorem unfit_of_comparison {q : Comparison} {part : Part ι Q} {unfit : List UnfitValue}
    (h : c.comparison backend q.name q.index q.op q.raw q.ignoreCase = .ok (part, unfit)) :
    unfit = (c.badValue? q).toList := by
  unfold badValue?
  cases hmap : c.mapper.find? q.name with
  | none =>
    simp only [comparison, hmap] at h
    split at h
    · cases h
      rfl
    · cases h
  | some map =>
    obtain ⟨first, rest, p, ps, haccessors, hp, hps, -, rfl⟩ := parts_of_comparison hmap h
    have hall : List.Forall₂ (fun accessor p => c.accessorPart backend map q.name q.index q.op q.raw
        q.ignoreCase accessor = .ok p) (first :: rest) (p :: ps) := .cons hp hps
    have hreports : (p :: ps).filterMap (·.2) = (first :: rest).filterMap fun accessor =>
        if c.rejects map q accessor = true then some (q.report map accessor) else none := by
      generalize first :: rest = accessors at hall
      generalize p :: ps = parts at hall
      induction hall with
      | nil => rfl
      | cons hp _ ih => rw [List.filterMap_cons, List.filterMap_cons, unfit_of_accessorPart hp, ih]
    simp only [haccessors, hreports, take_one_filterMap]

/-- An expression reports its bad values, in order and each comparison once. -/
theorem unfit_of_yields {grouped : Bool} {e : Expr} {part : Part ι Q} {unfit : List UnfitValue}
    (h : c.Yields backend grouped e part unfit) : unfit = c.badValues e := by
  induction h with
  | group _ ih => exact ih
  | logical _ _ _ ihl ihr =>
    rw [badValues, Expr.comparisons, List.filterMap_append, ihl, ihr]
    rfl
  | @comparison _ name index op raw ignoreCase _ _ h =>
    rw [unfit_of_comparison (q := ⟨name, index, op, raw, ignoreCase⟩) h, badValues,
      Expr.comparisons, List.filterMap_cons]
    cases c.badValue? ⟨name, index, op, raw, ignoreCase⟩ <;> rfl

/-! ## Queries do not depend on validation. -/

theorem comparison_validating (validate : Bool) (name : String) (index : Option String)
    (op : Operator) (raw : String) (ignoreCase : Bool) :
    { c with validateValues := validate }.comparison backend name index op raw ignoreCase =
      c.comparison backend name index op raw ignoreCase := by
  have hany : ∀ (first : Part ι Q) (rest : List (Part ι Q)),
      { c with validateValues := validate }.anyPart backend first rest =
        c.anyPart backend first rest :=
    fun first rest => anyPart_congr (by rfl) first rest
  simp only [comparison, hany]
  rfl

/-- Whether literals are validated makes no difference to expressions. -/
theorem expr_validating (validate : Bool) (grouped : Bool) (e : Expr) :
    { c with validateValues := validate }.expr backend grouped e = c.expr backend grouped e := by
  induction e generalizing grouped with
  | group inner ih => exact ih true
  | logical left conjunction right ihl ihr =>
    have hcombine : ∀ l r : Part ι Q,
        { c with validateValues := validate }.combine backend conjunction grouped l r =
          c.combine backend conjunction grouped l r :=
      fun l r => combine_congr (by rfl) conjunction grouped l r
    simp only [expr, ihl, ihr, hcombine]
  | comparison left op right _ _ =>
    unfold expr
    split
    case h_3 => exact comparison_validating ..
    -- The others are no comparisons, or are none of a field with a value.
    all_goals simp_all
  | field name index => rfl
  | value raw ignoreCase => rfl

/-- A compiler that validates literals fails where one that does not fails, and with the same error.
Otherwise it makes the same query if the filter has no bad values, and reports all of them if it
has some. -/
theorem build_validating (c : Compiler ι) (backend : Backend ι Q) (tree : FilterTree) :
    { c with validateValues := true }.build backend tree =
      match { c with validateValues := false }.build backend tree with
      | .error error => .error error
      | .ok built =>
        if c.badValues tree.root = [] then .ok built
        else .error (.invalidValues (c.badValues tree.root)) := by
  unfold build
  cases tree.isValid with
  | false => rfl
  | true =>
    have hfinish : ∀ (validate : Bool) (part : Part ι Q),
        { c with validateValues := validate }.finish backend part = c.finish backend part :=
      fun _ part => finish_congr (by rfl) part
    simp only [expr_validating, hfinish, Bool.not_true, Bool.false_eq_true, if_false]
    cases hexpr : c.expr backend false tree.root with
    | error error => rfl
    | ok p =>
      obtain ⟨part, unfit⟩ := p
      have hunfit : unfit = c.badValues tree.root := unfit_of_yields (expr_eq_ok_iff.1 hexpr)
      subst hunfit
      simp only [bind, Except.bind, pure, Except.pure]
      cases c.finish backend part with
      | error error => rfl
      | ok built =>
        cases hvalues : c.badValues tree.root <;> rfl

end Compiler

end FilterQuery
