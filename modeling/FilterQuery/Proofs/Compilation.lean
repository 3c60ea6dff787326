import FilterQuery.Compile.Compiler
import Mathlib.Data.List.Forall2

/-!
# How a filter comes to its query

`Yields c backend grouped e part unfit` says that the compiler makes `part` of the expression `e`,
and finds that the literals `unfit` do not fit. It has one rule for each kind of expression that can
be compiled, so facts about queries are proved by induction on it.

## Key results

- `expr_eq_ok_iff`, `build_eq_ok_iff`: the compiler succeeds exactly as the rules say
- `parts_of_comparison`: a comparison of a known field has a part for each accessor
-/

namespace FilterQuery

theorem bind_eq_ok {ε α β : Type} {x : Except ε α} {f : α → Except ε β} {b : β} :
    x >>= f = .ok b ↔ ∃ a, x = .ok a ∧ f a = .ok b := by
  cases x with
  | error e => simp [bind, Except.bind]
  | ok a => simp [bind, Except.bind]

/-- A traversal succeeds iff it does at each element. -/
theorem mapM_eq_ok {ε α β : Type} {f : α → Except ε β} {as : List α} {bs : List β} :
    as.mapM f = .ok bs ↔ List.Forall₂ (fun a b => f a = .ok b) as bs := by
  induction as generalizing bs with
  | nil => cases bs <;> simp [pure, Except.pure]
  | cons a as ih =>
    rw [List.mapM_cons, bind_eq_ok]
    simp only [bind_eq_ok, ih, pure, Except.pure, Except.ok.injEq]
    constructor
    · rintro ⟨b, hb, bs, hbs, rfl⟩
      exact .cons hb hbs
    · intro h
      cases h with
      | cons hb hbs => exact ⟨_, hb, _, hbs, rfl⟩

/-- A traversal succeeds if each step of it does. -/
theorem exists_mapM {ε α β : Type} {f : α → Except ε β} (as : List α)
    (h : ∀ a ∈ as, ∃ b, f a = .ok b) : ∃ bs, as.mapM f = .ok bs := by
  induction as with
  | nil => exact ⟨[], rfl⟩
  | cons a as ih =>
    rw [List.forall_mem_cons] at h
    obtain ⟨b, hb⟩ := h.1
    obtain ⟨bs, hbs⟩ := ih h.2
    exact ⟨b :: bs, mapM_eq_ok.2 (.cons hb (mapM_eq_ok.1 hbs))⟩

namespace Compiler

variable {ι Q : Type} {c : Compiler ι} {backend : Backend ι Q}

/-- The compiler makes the part of the expression, and finds that the literals do not fit. -/
inductive Yields (c : Compiler ι) (backend : Backend ι Q) :
    Bool → Expr → Part ι Q → List UnfitValue → Prop
  | group {grouped : Bool} {inner : Expr} {part : Part ι Q} {unfit : List UnfitValue}
      (h : Yields c backend true inner part unfit) :
      Yields c backend grouped (.group inner) part unfit
  | logical {grouped : Bool} {left right : Expr} {conjunction : Conjunction}
      {l r part : Part ι Q} {unfit more : List UnfitValue}
      (hleft : Yields c backend grouped left l unfit)
      (hright : Yields c backend grouped right r more)
      (hjoin : c.combine backend conjunction grouped l r = .ok part) :
      Yields c backend grouped (.logical left conjunction right) part (unfit ++ more)
  | comparison {grouped : Bool} {name : String} {index : Option String} {op : Operator}
      {raw : String} {ignoreCase : Bool} {part : Part ι Q} {unfit : List UnfitValue}
      (h : c.comparison backend name index op raw ignoreCase = .ok (part, unfit)) :
      Yields c backend grouped (.comparison (.field name index) op (.value raw ignoreCase))
        part unfit

/-- The compiler succeeds on an expression exactly as the rules say. -/
theorem expr_eq_ok_iff {grouped : Bool} {e : Expr} {part : Part ι Q} {unfit : List UnfitValue} :
    c.expr backend grouped e = .ok (part, unfit) ↔ c.Yields backend grouped e part unfit := by
  constructor
  · intro h
    induction e generalizing grouped part unfit with
    | group inner ih => exact .group (ih h)
    | logical left conjunction right ihl ihr =>
      rw [expr, bind_eq_ok] at h
      obtain ⟨⟨l, us⟩, hl, h⟩ := h
      obtain ⟨⟨r, vs⟩, hr, h⟩ := bind_eq_ok.1 h
      obtain ⟨joined, hjoin, h⟩ := bind_eq_ok.1 h
      cases h
      exact .logical (ihl hl) (ihr hr) hjoin
    | comparison left op right _ _ =>
      unfold expr at h
      split at h
      case h_3 heq =>
        cases heq
        exact .comparison h
      -- The other expressions are not comparisons, or cannot be compiled.
      all_goals simp_all
    | field name index => cases h
    | value raw ignoreCase => cases h
  · intro h
    induction h with
    | group _ ih => exact ih
    | logical _ _ hjoin ihl ihr =>
      rw [expr, bind_eq_ok]
      exact ⟨_, ihl, bind_eq_ok.2 ⟨_, ihr, bind_eq_ok.2 ⟨_, hjoin, rfl⟩⟩⟩
    | comparison h => exact h

/-- A filter is compiled iff its text was read without diagnostics, its expression is compiled, and
its literals fit or need not. -/
theorem build_eq_ok_iff {tree : FilterTree} {built : Built Q} :
    c.build backend tree = .ok built ↔
      tree.isValid = true ∧ ∃ part unfit, c.Yields backend false tree.root part unfit ∧
        c.finish backend part = .ok built ∧ (c.validateValues = true → unfit = []) := by
  unfold build
  cases tree.isValid with
  | false =>
    simp only [Bool.false_eq_true, false_and, iff_false]
    exact nofun
  | true =>
    simp only [true_and]
    constructor
    · intro h
      obtain ⟨⟨part, unfit⟩, hexpr, h⟩ := bind_eq_ok.1 h
      obtain ⟨finished, hfinish, h⟩ := bind_eq_ok.1 h
      refine ⟨part, unfit, expr_eq_ok_iff.1 hexpr, ?_⟩
      split at h
      · cases h
      · rename_i hvalidate
        cases h
        exact ⟨hfinish, fun hv => by simpa [hv] using hvalidate⟩
    · rintro ⟨part, unfit, hyields, hfinish, hvalidate⟩
      refine bind_eq_ok.2 ⟨_, expr_eq_ok_iff.2 hyields, bind_eq_ok.2 ⟨_, hfinish, ?_⟩⟩
      have hnot : (c.validateValues && !unfit.isEmpty) = false := by
        cases hv : c.validateValues with
        | false => rfl
        | true => simp [hvalidate hv]
      simp [hnot, pure, Except.pure]

/-- A closed part is joined, not merged. -/
theorem combine_closed_left (conjunction : Conjunction) (grouped : Bool) (built : Built Q)
    (r : Part ι Q) : c.combine backend conjunction grouped (.closed built) r =
      c.joinFinished backend conjunction (.closed built) r := by
  cases r <;> rfl

theorem combine_closed_right (conjunction : Conjunction) (grouped : Bool) (l : Part ι Q)
    (built : Built Q) : c.combine backend conjunction grouped l (.closed built) =
      c.joinFinished backend conjunction l (.closed built) := by
  cases l <;> rfl

/-! ## Compilers that differ in other options only. -/

variable {c' : Compiler ι}

/-- Of the options of a mapper, only the one on absent collections matters where parts close. -/
theorem finish_congr
    (h : c'.mapper.config.collectionNullGuard = c.mapper.config.collectionNullGuard)
    (part : Part ι Q) : c'.finish backend part = c.finish backend part := by
  induction part with
  | closed built => rfl
  | nested collection inner ih => simp only [finish, ih, h]

theorem joinFinished_congr
    (h : c'.mapper.config.collectionNullGuard = c.mapper.config.collectionNullGuard)
    (conjunction : Conjunction) (l r : Part ι Q) :
    c'.joinFinished backend conjunction l r = c.joinFinished backend conjunction l r := by
  simp only [joinFinished, finish_congr h]

theorem combine_congr
    (h : c'.mapper.config.collectionNullGuard = c.mapper.config.collectionNullGuard)
    (conjunction : Conjunction) (grouped : Bool) (l r : Part ι Q) :
    c'.combine backend conjunction grouped l r = c.combine backend conjunction grouped l r := by
  induction l generalizing r with
  | closed built => rw [combine_closed_left, combine_closed_left, joinFinished_congr h]
  | nested s l ih =>
    cases r with
    | closed built => rw [combine_closed_right, combine_closed_right, joinFinished_congr h]
    | nested t r => simp only [combine, ih, joinFinished_congr h]

theorem anyPart_congr
    (h : c'.mapper.config.collectionNullGuard = c.mapper.config.collectionNullGuard)
    (first : Part ι Q) (rest : List (Part ι Q)) :
    c'.anyPart backend first rest = c.anyPart backend first rest := by
  have hfinish : c'.finish backend = c.finish backend := funext (finish_congr h)
  cases rest <;> simp only [anyPart, hfinish]

/-! ## Comparisons. -/

/-- A comparison of a known field has a part for each of the accessors, one or the other of which is
to hold; at most one literal is reported. -/
theorem parts_of_comparison {name : String} {index : Option String} {op : Operator} {raw : String}
    {ignoreCase : Bool} {map : FieldMap ι} (hmap : c.mapper.find? name = some map)
    {part : Part ι Q} {unfit : List UnfitValue}
    (h : c.comparison backend name index op raw ignoreCase = .ok (part, unfit)) :
    ∃ first rest p ps, map.accessors index = .ok (first, rest) ∧
      c.accessorPart backend map name index op raw ignoreCase first = .ok p ∧
      List.Forall₂ (fun accessor p =>
        c.accessorPart backend map name index op raw ignoreCase accessor = .ok p) rest ps ∧
      c.anyPart backend p.1 (ps.map (·.1)) = .ok part ∧
      unfit = ((p :: ps).filterMap (·.2)).take 1 := by
  simp only [comparison, hmap] at h
  obtain ⟨⟨first, rest⟩, haccessors, h⟩ := bind_eq_ok.1 h
  obtain ⟨p, hp, h⟩ := bind_eq_ok.1 h
  obtain ⟨ps, hps, h⟩ := bind_eq_ok.1 h
  obtain ⟨joined, hjoin, h⟩ := bind_eq_ok.1 h
  cases h
  exact ⟨first, rest, p, ps, haccessors, hp, mapM_eq_ok.1 hps, hjoin, rfl⟩

theorem comparison_of_parts {name : String} {index : Option String} {op : Operator} {raw : String}
    {ignoreCase : Bool} {map : FieldMap ι} (hmap : c.mapper.find? name = some map)
    {first : Accessor ι} {rest : List (Accessor ι)}
    (haccessors : map.accessors index = .ok (first, rest)) {p : Part ι Q × Option UnfitValue}
    (hp : c.accessorPart backend map name index op raw ignoreCase first = .ok p)
    {ps : List (Part ι Q × Option UnfitValue)}
    (hps : rest.mapM (c.accessorPart backend map name index op raw ignoreCase) = .ok ps)
    {part : Part ι Q} (hjoin : c.anyPart backend p.1 (ps.map (·.1)) = .ok part) :
    c.comparison backend name index op raw ignoreCase =
      .ok (part, ((p :: ps).filterMap (·.2)).take 1) := by
  simp only [comparison, hmap]
  exact bind_eq_ok.2 ⟨_, haccessors, bind_eq_ok.2 ⟨p, hp, bind_eq_ok.2 ⟨ps, hps,
    bind_eq_ok.2 ⟨part, hjoin, rfl⟩⟩⟩⟩

end Compiler

end FilterQuery
