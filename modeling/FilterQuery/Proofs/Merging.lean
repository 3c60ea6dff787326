import FilterQuery.Proofs.Invariants

/-!
# Conjunctions and open conditions

Outside parentheses a conjunction closes the open conditions on its sides, so it joins their
meanings. Inside parentheses open conditions on one collection become one condition, on the same
element: a disjunction still means the same, and a conjunction says more than its sides.

## Key results

- `combines_of_combine`: what a conjunction of two parts is
- `joins_of_holds`, `holds_of_or`: what merged conditions say
- `accepts_iff_means`: without conjunctions in parentheses, filters accept what their meaning says
- `accepts_narrows`: merging accepts no more than the meaning says, and with disjunctions no less
-/

namespace FilterQuery

variable {ι : Type}

/-- The conjunctions of an expression that stand inside parentheses; `grouped` tells that the
expression itself does. -/
def Expr.groupedConjunctions (grouped : Bool) : Expr → List Conjunction
  | .logical left conjunction right =>
    (if grouped then [conjunction] else []) ++
      (left.groupedConjunctions grouped ++ right.groupedConjunctions grouped)
  | .comparison left _ right =>
    left.groupedConjunctions grouped ++ right.groupedConjunctions grouped
  | .group inner => inner.groupedConjunctions true
  | _ => []

/-! ## Consistent mappers. -/

/-- Whether collections of the mapper with the same path have the same elements. -/
def Mapper.IsConsistent (m : Mapper ι) : Prop :=
  ∀ s t, m.Uses s → m.Uses t → s.path = t.path →
    ∀ item element, element ∈ s.members item ↔ element ∈ t.members item

/-! ## Conjunctions of two parts. -/

/-- What a conjunction of two parts may be: a closed part that joins what they say, or inside
parentheses one condition on a collection that both of them are open on. -/
inductive Part.Combines (conjunction : Conjunction) (grouped : Bool) :
    Part ι (ι → Bool) → Part ι (ι → Bool) → Part ι (ι → Bool) → Prop
  | closed {l r : Part ι (ι → Bool)} {built : Built (ι → Bool)}
      (h : ∀ item, built.query item = true ↔ conjunction.Joins (l.Holds item) (r.Holds item)) :
      Combines conjunction grouped l r (.closed built)
  | merged {s t : Collection ι} {l r part : Part ι (ι → Bool)} (hgrouped : grouped = true)
      (hpath : s.path = t.path) (h : Combines conjunction grouped l r part) :
      Combines conjunction grouped (.nested s l) (.nested t r) (.nested s part)

namespace Part.Combines

variable {m : Mapper ι} {conjunction : Conjunction} {grouped : Bool} {l r part : Part ι (ι → Bool)}

/-- Outside parentheses, joined parts say what a conjunction of their sides says. -/
theorem holds_iff (h : Combines conjunction false l r part) (item : ι) :
    part.Holds item ↔ conjunction.Joins (l.Holds item) (r.Holds item) := by
  cases h with
  | closed hjoins => exact hjoins item
  | merged hgrouped => cases hgrouped

/-- Joined parts say at least what their sides say: one element that satisfies both conditions is an
element for each of them. -/
theorem joins_of_holds (h : Combines conjunction grouped l r part) (hm : m.IsConsistent)
    (hl : l.IsFrom m) (hr : r.IsFrom m) {item : ι} (hholds : part.Holds item) :
    conjunction.Joins (l.Holds item) (r.Holds item) := by
  induction h generalizing item with
  | closed hjoins => exact (hjoins item).1 hholds
  | @merged s t l r part _ hpath _ ih =>
    obtain ⟨element, helement, hinner⟩ := hholds
    have hother : element ∈ t.members item :=
      (hm s t hl.head hr.head hpath item element).1 helement
    have hjoins := ih hl.inner hr.inner hinner
    cases conjunction with
    | and => exact ⟨⟨element, helement, hjoins.1⟩, element, hother, hjoins.2⟩
    | or =>
      rcases hjoins with hleft | hright
      · exact .inl ⟨element, helement, hleft⟩
      · exact .inr ⟨element, hother, hright⟩

/-- Disjunctions may be merged: an element for either condition is one for their disjunction. -/
theorem holds_of_or (h : Combines .or grouped l r part) (hm : m.IsConsistent)
    (hl : l.IsFrom m) (hr : r.IsFrom m) {item : ι} (hholds : l.Holds item ∨ r.Holds item) :
    part.Holds item := by
  induction h generalizing item with
  | closed hjoins => exact (hjoins item).2 hholds
  | @merged s t l r part _ hpath _ ih =>
    rcases hholds with ⟨element, helement, hleft⟩ | ⟨element, hother, hright⟩
    · exact ⟨element, helement, ih hl.inner hr.inner (.inl hleft)⟩
    · have helement : element ∈ s.members item :=
        (hm s t hl.head hr.head hpath item element).2 hother
      exact ⟨element, helement, ih hl.inner hr.inner (.inr hright)⟩

end Part.Combines

namespace Compiler

variable {c : Compiler ι}

theorem combines_of_joinFinished {conjunction : Conjunction} {grouped : Bool}
    {l r part : Part ι (ι → Bool)}
    (h : c.joinFinished (predicateBackend ι) conjunction l r = .ok part) :
    Part.Combines conjunction grouped l r part := by
  obtain ⟨built, hbuilt, hholds⟩ := c.exists_joinFinished conjunction l r
  cases hbuilt.symm.trans h
  exact .closed hholds

theorem combines_of_combine {conjunction : Conjunction} {grouped : Bool}
    {l r part : Part ι (ι → Bool)}
    (h : c.combine (predicateBackend ι) conjunction grouped l r = .ok part) :
    Part.Combines conjunction grouped l r part := by
  -- Two open conditions are compared one level at a time, so the induction follows the first part.
  induction l generalizing r part with
  | closed built =>
    cases r <;> exact combines_of_joinFinished h
  | nested s l ih =>
    cases r with
    | closed built => exact combines_of_joinFinished h
    | nested t r =>
      rw [combine] at h
      split at h
      · rename_i hmerge
        obtain ⟨hgrouped, hpath⟩ := Bool.and_eq_true_iff.1 hmerge
        obtain ⟨inner, hinner, h⟩ := bind_eq_ok.1 h
        cases h
        exact .merged hgrouped (eq_of_beq hpath) (ih hinner)
      · exact combines_of_joinFinished h

/-! ## Meanings of compiled expressions. -/

/-- A compiled expression says at least what it means. -/
theorem means_of_holds (hm : c.mapper.IsConsistent) {grouped : Bool} {e : Expr}
    {part : Part ι (ι → Bool)} {unfit : List UnfitValue}
    (h : c.Yields (predicateBackend ι) grouped e part unfit) {item : ι}
    (hholds : part.Holds item) : c.Means e item := by
  induction h with
  | group _ ih => exact ih hholds
  | @logical _ _ _ conjunction _ _ _ _ _ hleft hright hjoin ihl ihr =>
    have hjoins := (combines_of_combine hjoin).joins_of_holds hm (isFrom_of_yields hleft)
      (isFrom_of_yields hright) hholds
    cases conjunction with
    | and => exact ⟨ihl hjoins.1, ihr hjoins.2⟩
    | or => exact hjoins.imp ihl ihr
  | comparison h => exact (holds_comparison (q := ⟨_, _, _, _, _⟩) h item).1 hholds

/-- A compiled expression says what it means, unless a conjunction in parentheses may make a
difference. -/
theorem holds_iff_means {grouped : Bool} {e : Expr} {part : Part ι (ι → Bool)}
    {unfit : List UnfitValue} (h : c.Yields (predicateBackend ι) grouped e part unfit)
    (hgroups : ∀ conjunction ∈ e.groupedConjunctions grouped,
      conjunction = .or ∧ c.mapper.IsConsistent) (item : ι) :
    part.Holds item ↔ c.Means e item := by
  induction h with
  | group _ ih => exact ih hgroups
  | @logical grouped _ _ conjunction l r part _ _ hleft hright hjoin ihl ihr =>
    simp only [Expr.groupedConjunctions, List.forall_mem_append] at hgroups
    obtain ⟨hhere, hinleft, hinright⟩ := hgroups
    have hcombines := combines_of_combine hjoin
    -- Outside parentheses nothing is merged, and inside there are disjunctions only.
    have hjoins : part.Holds item ↔ conjunction.Joins (l.Holds item) (r.Holds item) := by
      cases grouped with
      | false => exact hcombines.holds_iff item
      | true =>
        obtain ⟨rfl, hm⟩ := hhere conjunction (by simp)
        have hl := isFrom_of_yields hleft
        have hr := isFrom_of_yields hright
        exact ⟨hcombines.joins_of_holds hm hl hr, hcombines.holds_of_or hm hl hr⟩
    rw [hjoins, ihl hinleft, ihr hinright]
    rfl
  | comparison h => exact holds_comparison (q := ⟨_, _, _, _, _⟩) h item

/-- A filter without conjunctions in parentheses accepts exactly the items of which it is true, with
a quantifier for each comparison. -/
theorem accepts_iff_means (c : Compiler ι) {tree : FilterTree} {built : Built (ι → Bool)}
    (h : c.build (predicateBackend ι) tree = .ok built)
    (hgroups : tree.root.groupedConjunctions false = []) (item : ι) :
    built.accepts item = true ↔ c.Means tree.root item := by
  obtain ⟨-, part, unfit, hyields, hfinish, -⟩ := build_eq_ok_iff.1 h
  rw [← holds_iff_means hyields (by simp [hgroups])]
  exact holds_finish hfinish item

/-- Filters on the ages of pets, some of them not known; the pets of a list are lists of one age. -/
def agesCompiler : Compiler (List (Option Int64)) where
  mapper := {
    config := {}
    maps := [{
      name := "age"
      mapping := .single (.each "pets" (fun ages => some (ages.map fun age => [age]))
        (.computed .number true fun ages => match ages with
          | some age :: _ => .number (.signed age)
          | _ => .absent)) }]
    operators := .empty }

/-- Whether there is an age that is zero or not known, and one that is neither. -/
def bareAges : Expr :=
  .logical (.comparison (.field "age" none) .equal (.value "" false)) .and
    (.group (.comparison (.field "age" none) .notEqual (.value "" false)))

/-- An age that is not known and one of zero are told apart from others, but not from each other. -/
theorem accepts_iff_means_ages :
    ∃ built, agesCompiler.build (predicateBackend _) ⟨bareAges, []⟩ = .ok built ∧
      bareAges.groupedConjunctions false = [] ∧
      (built.accepts [none, some 3] = true ∧ agesCompiler.Means bareAges [none, some 3]) ∧
      (built.accepts [some 0, some 3] = true ∧ agesCompiler.Means bareAges [some 0, some 3]) ∧
      (built.accepts [none, some 0] = false ∧ ¬agesCompiler.Means bareAges [none, some 0]) := by
  obtain ⟨built, hbuild, hnone, hzero, hneither⟩ :
      ∃ built, agesCompiler.build (predicateBackend _) ⟨bareAges, []⟩ = .ok built ∧
        built.accepts [none, some 3] = true ∧ built.accepts [some 0, some 3] = true ∧
        built.accepts [none, some 0] = false := ⟨_, rfl, by decide, by decide, by decide⟩
  have hgroups : bareAges.groupedConjunctions false = [] := rfl
  have hmeans := accepts_iff_means agesCompiler hbuild hgroups
  refine ⟨built, hbuild, hgroups, ⟨hnone, (hmeans _).1 hnone⟩, ⟨hzero, (hmeans _).1 hzero⟩,
    hneither, fun h => ?_⟩
  rw [(hmeans _).2 h] at hneither
  cases hneither

/-- Filters on lists of labels, the elements of a list being lists of one label. -/
def labelCompiler : Compiler (List String) where
  mapper := {
    config := { caseSensitiveNames := true }
    maps := [{
      name := "label"
      mapping := .single (.each "labels" (fun labels => some (labels.map fun label => [label]))
        (.computed .string false fun labels => .string (labels.headD ""))) }]
    operators := .empty }

/-- Whether there is a label of the given text. -/
def labelIs (label : String) : Expr :=
  .comparison (.field "label" none) .equal (.value label false)

theorem isConsistent_labelCompiler : labelCompiler.mapper.IsConsistent := by
  rintro s t ⟨map, hmap, index, accessor, hoffers, hs⟩ ⟨other, hother, key, last, hlast, ht⟩ hpath
  simp only [labelCompiler, List.mem_singleton] at hmap hother
  subst hmap hother
  -- Without an index there is one accessor, with one collection.
  cases index <;> cases key <;>
    simp_all [FieldMap.Offers, Accessor.each, Accessor.computed, Chain.steps, Chain.under]

/-- Merging conditions only narrows a filter: it accepts only items of which it is true, with a
quantifier for each comparison, and all of them if the conjunctions in parentheses are
disjunctions. -/
theorem accepts_narrows (c : Compiler ι) (hm : c.mapper.IsConsistent) {tree : FilterTree}
    {built : Built (ι → Bool)} (h : c.build (predicateBackend ι) tree = .ok built) (item : ι) :
    (built.accepts item = true → c.Means tree.root item) ∧
      ((∀ conjunction ∈ tree.root.groupedConjunctions false, conjunction = .or) →
        (built.accepts item = true ↔ c.Means tree.root item)) := by
  obtain ⟨-, part, unfit, hyields, hfinish, -⟩ := build_eq_ok_iff.1 h
  rw [Built.accepts, holds_finish hfinish item]
  exact ⟨means_of_holds hm hyields,
    fun hor => holds_iff_means hyields (fun conjunction hin => ⟨hor conjunction hin, hm⟩) item⟩

theorem accepts_narrows_labels :
    ∃ built, labelCompiler.build (predicateBackend _)
        ⟨.group (.logical (labelIs "a") .or (labelIs "b")), []⟩ = .ok built ∧
      built.accepts ["b"] = true ∧
      labelCompiler.Means (.group (.logical (labelIs "a") .or (labelIs "b"))) ["b"] := by
  obtain ⟨built, h, haccepts⟩ : ∃ built, labelCompiler.build (predicateBackend _)
      ⟨.group (.logical (labelIs "a") .or (labelIs "b")), []⟩ = .ok built ∧
      built.accepts ["b"] = true := ⟨_, rfl, by decide⟩
  have hexact := (accepts_narrows labelCompiler isConsistent_labelCompiler h ["b"]).2 (by decide)
  exact ⟨built, h, haccepts, hexact.1 haccepts⟩

end Compiler

end FilterQuery
