import FilterQuery.Proofs.SharedElements

/-!
# Swapped operands

Merging keeps the collections of the left operand and drops those of the right one. In a consistent
mapper this makes no difference: only the paths of open conditions count, and two parts that are
open on the same paths and ask the same of elements may stand for one another in any expression.

## Key results

- `Part.Agrees.combine`, `Part.Agrees.combine_swap`: conjunctions respect this agreement, and agree
  with themselves after their operands are swapped
- `build_swap_iff`: swapping the operands of a conjunction changes no filter
-/

namespace FilterQuery

variable {ι : Type}

theorem Conjunction.joins_comm (conjunction : Conjunction) (p q : Prop) :
    conjunction.Joins p q ↔ conjunction.Joins q p := by
  cases conjunction with
  | and => exact and_comm
  | or => exact or_comm

/-! ## Parts that may stand for one another. -/

/-- Whether two parts are open on the same paths and ask the same of the elements they lead to. -/
structure Part.Agrees (l r : Part ι (ι → Bool)) : Prop where
  paths : l.paths = r.paths
  core : ∀ element, l.core.query element = r.core.query element

namespace Part.Agrees

variable {m : Mapper ι} {l l' r r' part part' : Part ι (ι → Bool)}

theorem refl (part : Part ι (ι → Bool)) : part.Agrees part := ⟨rfl, fun _ => rfl⟩

/-- Parts that agree say the same, also without their outermost open conditions. -/
theorem holds_drop_iff (h : l.Agrees r) (hm : m.IsConsistent) (hl : l.IsFrom m) (hr : r.IsFrom m)
    (n : Nat) (item : ι) : (l.drop n).Holds item ↔ (r.drop n).Holds item := by
  rw [holds_iff_leads hm (hl.drop n), holds_iff_leads hm (hr.drop n)]
  simp only [paths_drop, core_drop, h.paths, h.core]

theorem holds_iff (h : l.Agrees r) (hm : m.IsConsistent) (hl : l.IsFrom m) (hr : r.IsFrom m)
    (item : ι) : l.Holds item ↔ r.Holds item := by
  have hdrop := h.holds_drop_iff hm hl hr 0 item
  rwa [drop_zero, drop_zero] at hdrop

variable {c : Compiler ι} {conjunction : Conjunction} {grouped : Bool}

/-- Conjunctions of parts that agree. -/
theorem combine (hl : l.Agrees l') (hr : r.Agrees r') (hm : c.mapper.IsConsistent)
    (hfrom : l.IsFrom c.mapper ∧ l'.IsFrom c.mapper ∧ r.IsFrom c.mapper ∧ r'.IsFrom c.mapper)
    (h : c.combine (predicateBackend ι) conjunction grouped l r = .ok part)
    (h' : c.combine (predicateBackend ι) conjunction grouped l' r' = .ok part') :
    part.Agrees part' := by
  obtain ⟨hlm, hlm', hrm, hrm'⟩ := hfrom
  have hsame : part.paths = part'.paths := by
    rw [Compiler.paths_of_combine h, Compiler.paths_of_combine h', hl.paths, hr.paths]
  refine ⟨hsame, fun element => ?_⟩
  rw [Bool.eq_iff_iff, Compiler.core_of_combine h, Compiler.core_of_combine h', hsame,
    hl.holds_drop_iff hm hlm hlm', hr.holds_drop_iff hm hrm hrm']

/-- A conjunction agrees with the one of its swapped operands. -/
theorem combine_swap (h : c.combine (predicateBackend ι) conjunction grouped l r = .ok part)
    (h' : c.combine (predicateBackend ι) conjunction grouped r l = .ok part') :
    part.Agrees part' := by
  have hsame : part.paths = part'.paths := by
    rw [Compiler.paths_of_combine h, Compiler.paths_of_combine h', commonPrefix_comm]
  refine ⟨hsame, fun element => ?_⟩
  rw [Bool.eq_iff_iff, Compiler.core_of_combine h, Compiler.core_of_combine h', hsame]
  exact conjunction.joins_comm _ _

end Part.Agrees

/-! ## Expressions with swapped operands. -/

/-- Whether the second expression is the first one with the operands of one of its conjunctions
swapped. -/
inductive Expr.Swaps : Expr → Expr → Prop
  | here (left : Expr) (conjunction : Conjunction) (right : Expr) :
      Swaps (.logical left conjunction right) (.logical right conjunction left)
  | left {left left' : Expr} {conjunction : Conjunction} {right : Expr} (h : Swaps left left') :
      Swaps (.logical left conjunction right) (.logical left' conjunction right)
  | right {left : Expr} {conjunction : Conjunction} {right right' : Expr} (h : Swaps right right') :
      Swaps (.logical left conjunction right) (.logical left conjunction right')
  | group {inner inner' : Expr} (h : Swaps inner inner') : Swaps (.group inner) (.group inner')
  | compared {left left' : Expr} {op : Operator} {right : Expr} (h : Swaps left left') :
      Swaps (.comparison left op right) (.comparison left' op right)
  | literal {left : Expr} {op : Operator} {right right' : Expr} (h : Swaps right right') :
      Swaps (.comparison left op right) (.comparison left op right')

theorem Expr.Swaps.symm {e e' : Expr} (h : e.Swaps e') : e'.Swaps e := by
  induction h with
  | here left conjunction right => exact .here right conjunction left
  | left _ ih => exact .left ih
  | right _ ih => exact .right ih
  | group _ ih => exact .group ih
  | compared _ ih => exact .compared ih
  | literal _ ih => exact .literal ih

namespace Compiler

variable {c : Compiler ι}

/-- With operands swapped, an expression is compiled to a part that agrees, and there are literals
that do not fit iff there were before. -/
theorem exists_yields_of_swaps (hm : c.mapper.IsConsistent) {e e' : Expr} (hswaps : e.Swaps e')
    {grouped : Bool} {part : Part ι (ι → Bool)} {unfit : List UnfitValue}
    (h : c.Yields (predicateBackend ι) grouped e part unfit) :
    ∃ part' unfit', c.Yields (predicateBackend ι) grouped e' part' unfit' ∧ part.Agrees part' ∧
      (unfit = [] ↔ unfit' = []) := by
  induction hswaps generalizing grouped part unfit with
  | here left conjunction right =>
    cases h with
    | @logical _ _ _ _ l r _ us vs hl hr hjoin =>
      obtain ⟨part', hjoin', -⟩ := c.exists_combine conjunction grouped r l
      refine ⟨part', vs ++ us, .logical hr hl hjoin', .combine_swap hjoin hjoin', ?_⟩
      rw [List.append_eq_nil_iff, List.append_eq_nil_iff, and_comm]
  | @left left left' conjunction right _ ih =>
    cases h with
    | @logical _ _ _ _ l r _ us vs hl hr hjoin =>
      obtain ⟨l', us', hl', hagrees, hunfit⟩ := ih hl
      obtain ⟨part', hjoin', -⟩ := c.exists_combine conjunction grouped l' r
      have hfrom := isFrom_of_yields hr
      refine ⟨part', us' ++ vs, .logical hl' hr hjoin', ?_, ?_⟩
      · exact hagrees.combine (.refl r) hm
          ⟨isFrom_of_yields hl, isFrom_of_yields hl', hfrom, hfrom⟩ hjoin hjoin'
      · rw [List.append_eq_nil_iff, List.append_eq_nil_iff, hunfit]
  | @right left conjunction right right' _ ih =>
    cases h with
    | @logical _ _ _ _ l r _ us vs hl hr hjoin =>
      obtain ⟨r', vs', hr', hagrees, hunfit⟩ := ih hr
      obtain ⟨part', hjoin', -⟩ := c.exists_combine conjunction grouped l r'
      have hfrom := isFrom_of_yields hl
      refine ⟨part', us ++ vs', .logical hl hr' hjoin', ?_, ?_⟩
      · exact Part.Agrees.combine (.refl l) hagrees hm
          ⟨hfrom, hfrom, isFrom_of_yields hr, isFrom_of_yields hr'⟩ hjoin hjoin'
      · rw [List.append_eq_nil_iff, List.append_eq_nil_iff, hunfit]
  | group _ ih =>
    cases h with
    | group h =>
      obtain ⟨part', unfit', h', hagrees, hunfit⟩ := ih h
      exact ⟨part', unfit', .group h', hagrees, hunfit⟩
  -- Only fields and values can be compared, and they have no operands.
  | compared hleft _ =>
    cases h with
    | comparison => cases hleft
  | literal hright _ =>
    cases h with
    | comparison => cases hright

theorem exists_build_of_swaps (hm : c.mapper.IsConsistent) {e e' : Expr} (hswaps : e.Swaps e')
    {diagnostics : List Diagnostic} {built : Built (ι → Bool)}
    (h : c.build (predicateBackend ι) ⟨e, diagnostics⟩ = .ok built) :
    ∃ built', c.build (predicateBackend ι) ⟨e', diagnostics⟩ = .ok built' ∧
      ∀ item, built.accepts item = built'.accepts item := by
  obtain ⟨hvalid, part, unfit, hyields, hfinish, hunfit⟩ := build_eq_ok_iff.1 h
  obtain ⟨part', unfit', hyields', hagrees, hsame⟩ := exists_yields_of_swaps hm hswaps hyields
  obtain ⟨built', hfinish', hholds'⟩ := c.exists_finish part'
  refine ⟨built', build_eq_ok_iff.2 ⟨hvalid, part', unfit', hyields', hfinish', fun hvalidate =>
    hsame.1 (hunfit hvalidate)⟩, fun item => ?_⟩
  rw [Bool.eq_iff_iff, Built.accepts, Built.accepts, holds_finish hfinish, hholds',
    hagrees.holds_iff hm (isFrom_of_yields hyields) (isFrom_of_yields hyields')]

/-- Swapping the operands of a conjunction, wherever it stands, gives a filter that is compiled iff
the other one is, and then accepts the same items. -/
theorem build_swap_iff (c : Compiler ι) (hm : c.mapper.IsConsistent) {e e' : Expr}
    (hswaps : e.Swaps e') (diagnostics : List Diagnostic) :
    ((∃ built, c.build (predicateBackend ι) ⟨e, diagnostics⟩ = .ok built) ↔
      ∃ built, c.build (predicateBackend ι) ⟨e', diagnostics⟩ = .ok built) ∧
    ∀ built built', c.build (predicateBackend ι) ⟨e, diagnostics⟩ = .ok built →
      c.build (predicateBackend ι) ⟨e', diagnostics⟩ = .ok built' →
      ∀ item, built.accepts item = built'.accepts item := by
  refine ⟨⟨?_, ?_⟩, ?_⟩
  · rintro ⟨built, hbuilt⟩
    obtain ⟨built', hbuilt', -⟩ := exists_build_of_swaps hm hswaps hbuilt
    exact ⟨built', hbuilt'⟩
  · rintro ⟨built, hbuilt⟩
    obtain ⟨built', hbuilt', -⟩ := exists_build_of_swaps hm hswaps.symm hbuilt
    exact ⟨built', hbuilt'⟩
  · intro built built' hbuilt hbuilt'
    obtain ⟨other, hother, hsame⟩ := exists_build_of_swaps hm hswaps hbuilt
    cases hbuilt'.symm.trans hother
    exact hsame

/-- The favourite of the pet that has the ball may as well be asked for first. -/
theorem build_swap_iff_toys :
    ∃ built built', toyCompiler.build (predicateBackend _)
        ⟨.group (.logical (toyIs "ball").expr .and (favouriteIs "bone").expr), []⟩ = .ok built ∧
      toyCompiler.build (predicateBackend _)
        ⟨.group (.logical (favouriteIs "bone").expr .and (toyIs "ball").expr), []⟩ = .ok built' ∧
      built.accepts [["bone", "ball"], ["rope"]] = true ∧
      built'.accepts [["bone", "ball"], ["rope"]] = true := by
  obtain ⟨built, h, haccepts⟩ : ∃ built, toyCompiler.build (predicateBackend _)
      ⟨.group (.logical (toyIs "ball").expr .and (favouriteIs "bone").expr), []⟩ = .ok built ∧
      built.accepts [["bone", "ball"], ["rope"]] = true := ⟨_, rfl, by decide⟩
  have hswaps := Expr.Swaps.group
    (.here (toyIs "ball").expr .and (favouriteIs "bone").expr)
  obtain ⟨hcompiled, hsame⟩ := build_swap_iff toyCompiler isConsistent_toyCompiler hswaps []
  obtain ⟨built', h'⟩ := hcompiled.1 ⟨built, h⟩
  exact ⟨built, built', h, h', haccepts, hsame built built' h h' _ ▸ haccepts⟩

end Compiler

end FilterQuery
