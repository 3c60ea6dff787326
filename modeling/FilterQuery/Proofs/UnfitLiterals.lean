import FilterQuery.Proofs.Swapping

/-!
# Literals that do not fit

A comparison with a literal that does not fit holds of no item, so a filter should accept no more
with it than with a literal that fits. But it is compiled to a closed part, whatever collections its
field goes through, and a closed part keeps its neighbours in parentheses from being merged: once it
is part of a disjunction, the comparisons that are joined by an `and` behind it may be about
different elements. Where that cannot happen, the filter does accept no more.

## Key results

- `holds_combine_iff`: where merging makes no difference, a conjunction says what its sides say
- `never_of_not_fits`: a comparison with a literal that does not fit is closed and never holds
- `Narrows.combine_left`: what is kept when one more operand is joined
- `accepts_of_repaired`: where a literal that does not fit only narrows the filter
- `accepts_more_animals`: where it does not
-/

namespace FilterQuery

variable {ι : Type}

/-- Whether the second expression is the first one with one occurrence of `old` replaced by `new`.
The list has the conjunctions inside parentheses that stand around this occurrence, innermost
first. -/
inductive Expr.Replaces (old new : Expr) : Bool → List Conjunction → Expr → Expr → Prop
  | here (grouped : Bool) : Replaces old new grouped [] old new
  | left {grouped : Bool} {around : List Conjunction} {left left' : Expr}
      (h : Replaces old new grouped around left left') (conjunction : Conjunction) (right : Expr) :
      Replaces old new grouped (if grouped then around ++ [conjunction] else around)
        (.logical left conjunction right) (.logical left' conjunction right)
  | right {grouped : Bool} {around : List Conjunction} {right right' : Expr}
      (h : Replaces old new grouped around right right') (left : Expr) (conjunction : Conjunction) :
      Replaces old new grouped (if grouped then around ++ [conjunction] else around)
        (.logical left conjunction right) (.logical left conjunction right')
  | group {around : List Conjunction} {inner inner' : Expr}
      (h : Replaces old new true around inner inner') (grouped : Bool) :
      Replaces old new grouped around (.group inner) (.group inner')

/-- Whether, from the inside out, no `and` comes after an `or`. -/
def DisjunctionsLast (around : List Conjunction) : Prop :=
  around.Pairwise fun inner outer => inner = .or → outer = .or

theorem disjunctionsLast_concat {around : List Conjunction} {conjunction : Conjunction} :
    DisjunctionsLast (around ++ [conjunction]) ↔
      DisjunctionsLast around ∧ (.or ∈ around → conjunction = .or) := by
  rw [DisjunctionsLast, List.pairwise_append]
  simp only [List.pairwise_singleton, true_and, List.mem_singleton, forall_eq]
  constructor
  · exact fun h => ⟨h.1, fun hor => h.2 _ hor rfl⟩
  · rintro ⟨hlast, hor⟩
    refine ⟨hlast, ?_⟩
    rintro _ hin rfl
    exact hor hin

/-- A part that is not open says what its query says. -/
theorem Part.holds_iff_core {part : Part ι (ι → Bool)} (h : part.paths = []) (item : ι) :
    part.Holds item ↔ part.core.query item = true := by
  cases part with
  | closed built => rfl
  | nested collection inner => simp at h

namespace Compiler

variable {c : Compiler ι} {conjunction : Conjunction} {grouped : Bool}

/-- A disjunction, and a conjunction whose sides have no collection in common, say what their sides
say. -/
theorem holds_combine_iff (hm : c.mapper.IsConsistent) {l r part : Part ι (ι → Bool)}
    (hl : l.IsFrom c.mapper) (hr : r.IsFrom c.mapper)
    (h : c.combine (predicateBackend ι) conjunction grouped l r = .ok part)
    (hshared : conjunction = .or ∨ part.paths = []) (item : ι) :
    part.Holds item ↔ conjunction.Joins (l.Holds item) (r.Holds item) := by
  rcases hshared with rfl | hclosed
  · have hcombines := combines_of_combine h
    exact ⟨hcombines.joins_of_holds hm hl hr, hcombines.holds_of_or hm hl hr⟩
  · rw [Part.holds_iff_core hclosed, core_of_combine h, hclosed, List.length_nil, Part.drop_zero,
      Part.drop_zero]

/-! ## Comparisons with literals that do not fit. -/

/-- A literal that does not fit gives a condition that no value satisfies. -/
theorem exists_never_of_not_fits {map : FieldMap ι} {accessor : Accessor ι} {q : Comparison}
    (hunfit : ¬c.Fits map accessor q) {condition : Condition}
    (h : Condition.of c.mapper.config c.operators map accessor q.name q.op q.raw q.ignoreCase =
      .ok condition) : ∃ unfit, condition = .never unfit := by
  by_cases hcustom : ∃ symbol, q.op = .custom symbol
  -- An operator that is not known gives no condition at all.
  · obtain ⟨symbol, hop⟩ := hcustom
    simp only [Fits, hop, OperatorRegistry.contains, Option.not_isSome_iff_eq_none] at hunfit
    simp only [Condition.of, hop, hunfit, reduceCtorEq] at h
  · have hop : ∀ symbol, q.op ≠ .custom symbol := not_exists.1 hcustom
    have hnone : ¬q.isBare = true ∧ ¬q.isWithKeyword c.mapper.config = true ∧
        Condition.literal? c.mapper.config map.convertor accessor.kind q.op q.raw = none := by
      unfold Fits at hunfit
      split at hunfit
      · exact absurd ‹_› (hop _)
      · rwa [not_or, not_or, Option.not_isSome_iff_eq_none] at hunfit
    obtain ⟨hbare, hkeyword, hliteral⟩ := hnone
    rw [condition_of_builtin hop, if_neg hbare, if_neg hkeyword, hliteral] at h
    cases h
    exact ⟨_, rfl⟩

/-- A comparison with a literal that does not fit is closed, holds of nothing, and is reported. -/
theorem never_of_not_fits {q : Comparison} {map : FieldMap ι} {accessor : Accessor ι}
    (hq : c.Compares q map accessor) (hunfit : ¬c.Fits map accessor q)
    {part : Part ι (ι → Bool)} {unfit : List UnfitValue}
    (h : c.comparison (predicateBackend ι) q.name q.index q.op q.raw q.ignoreCase =
      .ok (part, unfit)) : part = .closed ⟨(predicateBackend ι).never, false⟩ ∧ unfit ≠ [] := by
  obtain ⟨first, rest, p, ps, haccessors, hp, hps, hjoin, rfl⟩ := parts_of_comparison hq.mapped h
  cases hq.only.symm.trans haccessors
  cases hps
  cases hjoin
  obtain ⟨condition, hcondition, hp⟩ := bind_eq_ok.1 hp
  obtain ⟨unfit, rfl⟩ := exists_never_of_not_fits hunfit hcondition
  cases hp
  exact ⟨rfl, by simp⟩

end Compiler

/-! ## What a literal that fits may add. -/

/-- How the part of an expression with a literal that does not fit compares to the part with one
that fits, for a comparison on the given paths with the given conjunctions around it. -/
structure Narrows (grouped : Bool) (paths : List String) (around : List Conjunction)
    (part part' : Part ι (ι → Bool)) : Prop where
  closed : part.paths = []
  /-- Without collections the other part is closed as well. -/
  stays : paths = [] → part'.paths = []
  /-- Inside parentheses, only a disjunction can make up for the literal. -/
  never : grouped = true → .or ∉ around → ∀ item, ¬part.Holds item
  holds : (paths ≠ [] → DisjunctionsLast around) → ∀ item, part.Holds item → part'.Holds item

namespace Narrows

open Compiler

variable {c : Compiler ι} {grouped : Bool} {conjunction : Conjunction} {paths : List String}
  {around : List Conjunction} {part part' other other' joined joined' : Part ι (ι → Bool)}

theorem group (h : Narrows true paths around part part') (grouped : Bool) :
    Narrows grouped paths around part part' :=
  ⟨h.closed, h.stays, fun _ => h.never rfl, h.holds⟩

/-- Only what parts say of items counts, and the paths on which they are open. -/
theorem congr (h : Narrows grouped paths around part part') (hm : c.mapper.IsConsistent)
    (hfrom : part.IsFrom c.mapper ∧ other.IsFrom c.mapper)
    (hfrom' : part'.IsFrom c.mapper ∧ other'.IsFrom c.mapper) (hagrees : part.Agrees other)
    (hagrees' : part'.Agrees other') : Narrows grouped paths around other other' := by
  have hholds := hagrees.holds_iff hm hfrom.1 hfrom.2
  have hholds' := hagrees'.holds_iff hm hfrom'.1 hfrom'.2
  refine ⟨hagrees.paths ▸ h.closed, fun hpaths => hagrees'.paths ▸ h.stays hpaths, ?_, ?_⟩
  · intro hgrouped hnone item
    rw [← hholds]
    exact h.never hgrouped hnone item
  · intro hlast item
    rw [← hholds, ← hholds']
    exact h.holds hlast item

/-- One more operand is joined. -/
theorem combine_left (h : Narrows grouped paths around part part') (hm : c.mapper.IsConsistent)
    (hpart : part.IsFrom c.mapper) (hpart' : part'.IsFrom c.mapper) (hother : other.IsFrom c.mapper)
    (hjoin : c.combine (predicateBackend ι) conjunction grouped part other = .ok joined)
    (hjoin' : c.combine (predicateBackend ι) conjunction grouped part' other = .ok joined') :
    Narrows grouped paths (if grouped then around ++ [conjunction] else around) joined joined' := by
  have hclosed : joined.paths = [] := by
    rw [paths_of_combine hjoin, h.closed]
    simp [commonPrefix]
  have hstays : part'.paths = [] → joined'.paths = [] := by
    intro hpaths
    rw [paths_of_combine hjoin', hpaths]
    simp [commonPrefix]
  have hholds := holds_combine_iff hm hpart hother hjoin (.inr hclosed)
  refine ⟨hclosed, fun hpaths => hstays (h.stays hpaths), ?_, ?_⟩
  · rintro rfl hnone item hitem
    rw [if_pos rfl, List.mem_append, List.mem_singleton, not_or] at hnone
    cases conjunction with
    | and => exact h.never rfl hnone.1 item ((hholds item).1 hitem).1
    | or => exact hnone.2 rfl
  · intro hlast item hitem
    have hjoins := (hholds item).1 hitem
    by_cases hshared : conjunction = .or ∨ joined'.paths = []
    · have hbefore : paths ≠ [] → DisjunctionsLast around := by
        intro hpaths
        cases grouped with
        | false => exact hlast hpaths
        | true => exact (disjunctionsLast_concat.1 (hlast hpaths)).1
      rw [holds_combine_iff hm hpart' hother hjoin' hshared]
      cases conjunction with
      | and => exact ⟨h.holds hbefore item hjoins.1, hjoins.2⟩
      | or => exact hjoins.imp_left (h.holds hbefore item)
    -- A conjunction with the literal that fits is merged, so the other one holds of nothing.
    · obtain ⟨hand, hopen⟩ := not_or.1 hshared
      have hpaths : paths ≠ [] := fun hpaths => hopen (hstays (h.stays hpaths))
      cases grouped with
      | false => exact absurd (paths_of_combine hjoin') hopen
      | true =>
        have hnone : .or ∉ around := fun hor =>
          hand ((disjunctionsLast_concat.1 (hlast hpaths)).2 hor)
        cases conjunction with
        | and => exact absurd hjoins.1 (h.never rfl hnone item)
        | or => exact absurd rfl hand

end Narrows

namespace Compiler

variable {c : Compiler ι} {q : Comparison} {map : FieldMap ι} {accessor : Accessor ι}
  {raw : String} {ignoreCase : Bool}

/-- With a literal that fits in place of one that does not, an expression is compiled to a part that
compares to the one before. -/
theorem exists_yields_of_replaces (hm : c.mapper.IsConsistent) (hq : c.Compares q map accessor)
    (hunfit : ¬c.Fits map accessor q) (hfits : c.Fits map accessor { q with raw, ignoreCase })
    {grouped : Bool} {around : List Conjunction} {e e' : Expr}
    (hreplaces : Expr.Replaces q.expr (Comparison.expr { q with raw, ignoreCase }) grouped around
      e e') {part : Part ι (ι → Bool)} {unfit : List UnfitValue}
    (h : c.Yields (predicateBackend ι) grouped e part unfit) :
    unfit ≠ [] ∧ ∃ part' unfit', c.Yields (predicateBackend ι) grouped e' part' unfit' ∧
      Narrows grouped accessor.chain.collections around part part' := by
  induction hreplaces generalizing part unfit with
  | here grouped =>
    unfold Comparison.expr at h
    cases h with
    | comparison h =>
      obtain ⟨rfl, hreported⟩ := never_of_not_fits hq hunfit h
      have hnever : ∀ item, ¬(Part.closed ⟨(predicateBackend ι).never, false⟩).Holds item := by
        simp [Part.Holds, predicateBackend]
      have hq' : c.Compares { q with raw, ignoreCase } map accessor := ⟨hq.mapped, hq.only⟩
      obtain ⟨part', hpart', hpaths, -⟩ := exists_comparison hq' hfits
      exact ⟨hreported, part', [], .comparison hpart', rfl, fun hnone => hpaths.trans hnone,
        fun _ _ => hnever, fun _ item hitem => absurd hitem (hnever item)⟩
  | left _ conjunction right ih =>
    cases h with
    | @logical _ _ _ _ l r _ us vs hl hr hjoin =>
      obtain ⟨hreported, l', us', hl', hnarrows⟩ := ih hl
      obtain ⟨part', hjoin', -⟩ := c.exists_combine conjunction _ l' r
      refine ⟨by simp [hreported], part', us' ++ vs, .logical hl' hr hjoin', ?_⟩
      exact hnarrows.combine_left hm (isFrom_of_yields hl) (isFrom_of_yields hl')
        (isFrom_of_yields hr) hjoin hjoin'
  | right _ left conjunction ih =>
    cases h with
    | @logical _ _ _ _ l r _ us vs hl hr hjoin =>
      obtain ⟨hreported, r', vs', hr', hnarrows⟩ := ih hr
      obtain ⟨part', hjoin', -⟩ := c.exists_combine conjunction _ l r'
      -- The same with the operands swapped, which agrees.
      obtain ⟨swapped, hswap, -⟩ := c.exists_combine conjunction _ r l
      obtain ⟨swapped', hswap', -⟩ := c.exists_combine conjunction _ r' l
      have hyields := Yields.logical hl hr hjoin
      have hyields' := Yields.logical hl hr' hjoin'
      refine ⟨by simp [hreported], part', us ++ vs', hyields', ?_⟩
      have h := hnarrows.combine_left hm (isFrom_of_yields hr) (isFrom_of_yields hr')
        (isFrom_of_yields hl) hswap hswap'
      exact h.congr hm ⟨isFrom_of_yields (.logical hr hl hswap), isFrom_of_yields hyields⟩
        ⟨isFrom_of_yields (.logical hr' hl hswap'), isFrom_of_yields hyields'⟩
        (.combine_swap hswap hjoin) (.combine_swap hswap' hjoin')
  | group _ grouped ih =>
    cases h with
    | group h =>
      obtain ⟨hreported, part', unfit', h', hnarrows⟩ := ih h
      exact ⟨hreported, part', unfit', .group h', hnarrows.group grouped⟩

/-- A filter with a literal that does not fit accepts no more than one with a literal that fits in
its place, if the field goes through no collection, or no disjunction in parentheses that the
comparison is part of is in turn part of an `and` there. -/
theorem accepts_of_repaired (c : Compiler ι) (hm : c.mapper.IsConsistent)
    (hq : c.Compares q map accessor) (hunfit : ¬c.Fits map accessor q)
    (hfits : c.Fits map accessor { q with raw, ignoreCase }) {around : List Conjunction}
    {e e' : Expr}
    (hreplaces : Expr.Replaces q.expr (Comparison.expr { q with raw, ignoreCase }) false around
      e e')
    (hlast : accessor.chain.collections ≠ [] → DisjunctionsLast around)
    {diagnostics : List Diagnostic} {built : Built (ι → Bool)}
    (h : c.build (predicateBackend ι) ⟨e, diagnostics⟩ = .ok built) :
    ∃ built', c.build (predicateBackend ι) ⟨e', diagnostics⟩ = .ok built' ∧
      ∀ item, built.accepts item = true → built'.accepts item = true := by
  obtain ⟨hvalid, part, unfit, hyields, hfinish, hvalidate⟩ := build_eq_ok_iff.1 h
  obtain ⟨hreported, part', unfit', hyields', hnarrows⟩ :=
    exists_yields_of_replaces hm hq hunfit hfits hreplaces hyields
  obtain ⟨built', hfinish', hholds'⟩ := c.exists_finish part'
  refine ⟨built', build_eq_ok_iff.2 ⟨hvalid, part', unfit', hyields', hfinish', ?_⟩, fun item => ?_⟩
  -- The filter is compiled, so its literals need not fit.
  · exact fun hmust => absurd (hvalidate hmust) hreported
  · rw [Built.accepts, Built.accepts, holds_finish hfinish, hholds']
    exact hnarrows.holds hlast item

/-- The animals of an item, each as an item of one animal. -/
def animalsOf (animals : List (String × Bool)) : Option (List (List (String × Bool))) :=
  some (animals.map fun animal => [animal])

/-- The names of animals. -/
def animalNameAccessor : Accessor (List (String × Bool)) :=
  .each "animals" animalsOf
    (.computed .string false fun animals => .string ((animals.map (·.1)).headD ""))

/-- Whether animals are tame. -/
def tameAccessor : Accessor (List (String × Bool)) :=
  .each "animals" animalsOf
    (.computed .bool false fun animals => .bool ((animals.map (·.2)).headD false))

/-- Animals by name. -/
def animalNameField : FieldMap (List (String × Bool)) :=
  { name := "name", mapping := .single animalNameAccessor }

/-- Animals that are tame, or that are not. -/
def tameField : FieldMap (List (String × Bool)) :=
  { name := "tame", mapping := .single tameAccessor }

/-- Filters on lists of animals. -/
def animalCompiler : Compiler (List (String × Bool)) where
  mapper := {
    config := { caseSensitiveNames := true }
    maps := [animalNameField, tameField]
    operators := .empty }

theorem isConsistent_animalCompiler : animalCompiler.mapper.IsConsistent := by
  have huses : ∀ s, animalCompiler.mapper.Uses s → s = ⟨"animals", animalsOf⟩ := by
    intro s hs
    obtain ⟨map, hmap, index, accessor, hoffers, hs⟩ := hs
    simp only [animalCompiler, List.mem_cons, List.not_mem_nil, or_false] at hmap
    rcases hmap with rfl | rfl <;> cases index <;>
      simp_all [FieldMap.Offers, animalNameField, tameField, animalNameAccessor, tameAccessor,
        Accessor.each, Accessor.computed, Chain.steps, Chain.under, joinPaths]
  intro s t hs ht _ item element
  rw [huses s hs, huses t ht]

/-- Whether there is an animal of the given name. -/
def animalIs (animal : String) : Comparison := ⟨"name", none, .equal, animal, false⟩

/-- Whether there is an animal that is as tame as the text says. -/
def tameIs (raw : String) : Comparison := ⟨"tame", none, .equal, raw, false⟩

theorem compares_tameIs (raw : String) :
    animalCompiler.Compares (tameIs raw) tameField tameAccessor := by
  have hfind : animalCompiler.mapper.find? "tame" = some tameField := rfl
  exact ⟨hfind, rfl⟩

theorem not_fits_tameIs_maybe : ¬animalCompiler.Fits tameField tameAccessor (tameIs "maybe") := by
  rintro (hbare | hkeyword | hliteral)
  · exact absurd hbare (by decide)
  · exact absurd hkeyword (by decide)
  · exact absurd hliteral (by decide)

theorem fits_tameIs_true : animalCompiler.Fits tameField tameAccessor (tameIs "true") :=
  .inr (.inr rfl)

/-- Tom is accepted although it is not known who else is to be tame. -/
theorem accepts_of_repaired_animals :
    ∃ built built',
      animalCompiler.build (predicateBackend _)
        ⟨.group (.logical (.logical (tameIs "maybe").expr .and (animalIs "Rex").expr) .or
          (animalIs "Tom").expr), []⟩ = .ok built ∧
      animalCompiler.build (predicateBackend _)
        ⟨.group (.logical (.logical (tameIs "true").expr .and (animalIs "Rex").expr) .or
          (animalIs "Tom").expr), []⟩ = .ok built' ∧
      built.accepts [("Tom", false)] = true ∧ built'.accepts [("Tom", false)] = true := by
  obtain ⟨built, h, haccepts⟩ : ∃ built, animalCompiler.build (predicateBackend _)
      ⟨.group (.logical (.logical (tameIs "maybe").expr .and (animalIs "Rex").expr) .or
        (animalIs "Tom").expr), []⟩ = .ok built ∧
      built.accepts [("Tom", false)] = true := ⟨_, rfl, by decide⟩
  have hreplaces : Expr.Replaces (tameIs "maybe").expr (tameIs "true").expr false [.and, .or]
      (.group (.logical (.logical (tameIs "maybe").expr .and (animalIs "Rex").expr) .or
        (animalIs "Tom").expr))
      (.group (.logical (.logical (tameIs "true").expr .and (animalIs "Rex").expr) .or
        (animalIs "Tom").expr)) :=
    .group (.left (.left (.here true) .and _) .or _) false
  obtain ⟨built', h', hmore⟩ := accepts_of_repaired animalCompiler isConsistent_animalCompiler
    (compares_tameIs "maybe") not_fits_tameIs_maybe fits_tameIs_true hreplaces
    (fun _ => by simp [DisjunctionsLast]) h
  exact ⟨built, built', h, h', haccepts, hmore _ haccepts⟩

/-- In general a literal that does not fit may add items. There is Rex, and there is Tom, neither of
them tame: with a literal that fits, Tom would have to be tame or be Rex. -/
theorem accepts_more_animals :
    animalCompiler.mapper.IsConsistent ∧
    animalCompiler.Compares (tameIs "maybe") tameField tameAccessor ∧
    ¬animalCompiler.Fits tameField tameAccessor (tameIs "maybe") ∧
    animalCompiler.Fits tameField tameAccessor (tameIs "true") ∧
    ∃ built built',
      animalCompiler.build (predicateBackend _)
        ⟨.group (.logical (.logical (tameIs "maybe").expr .or (animalIs "Rex").expr) .and
          (animalIs "Tom").expr), []⟩ = .ok built ∧
      animalCompiler.build (predicateBackend _)
        ⟨.group (.logical (.logical (tameIs "true").expr .or (animalIs "Rex").expr) .and
          (animalIs "Tom").expr), []⟩ = .ok built' ∧
      built.accepts [("Rex", false), ("Tom", false)] = true ∧
      built'.accepts [("Rex", false), ("Tom", false)] = false :=
  ⟨isConsistent_animalCompiler, compares_tameIs "maybe", not_fits_tameIs_maybe, fits_tameIs_true,
    _, _, rfl, rfl, by decide, by decide⟩

end Compiler

end FilterQuery
