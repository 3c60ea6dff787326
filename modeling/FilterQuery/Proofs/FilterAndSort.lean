import FilterQuery.Proofs.Meaning
import FilterQuery.Proofs.StableSort

/-!
# Filters cut sorted items

Filters and sorting compare values in the same order. Where items are sorted by a field, a literal
cuts them into those below it, those equal to it, those above it and those without a value, and the
filters that compare the field with the literal find these pieces.

## Key results

- `exists_build_comparison`: the filter for one comparison tests the values of the field
- `accepts_eq_holdsAt`: a test asks where the value stands in relation to the literal
- `rank_standing_le`: along sorted items values do not fall back
- `filters_cut_sorted`: the pieces of sorted items are what the filters find
-/

namespace FilterQuery

variable {ι : Type}

/-! ## Where values stand. -/

/-- Where a value stands: below, at or above a literal, or nowhere if it is missing. -/
inductive Standing where
  | below
  | same
  | above
  | missing
deriving DecidableEq

/-- The place of a standing among all of them. -/
def Standing.rank : Standing → Nat
  | below => 0
  | same => 1
  | above => 2
  | missing => 3

/-- The standing of a value that is there. -/
def Standing.of : Ordering → Standing
  | .lt => below
  | .eq => same
  | .gt => above

/-- Where a value of a family, or a missing one, stands in relation to a literal of the family. -/
def Value.standing (family : ValueFamily) (v literal : Value) : Standing :=
  if v.isAbsent then .missing else .of (family.order v literal)

namespace Operator

/-- The operators that compare values by their order. -/
def comparisons : List Operator := [equal, notEqual, greater, less, greaterEqual, lessEqual]

/-- Whether a comparison with a literal holds of values that stand there. -/
def holdsAt : Operator → Standing → Bool
  | less, standing => standing == .below
  | lessEqual, standing => standing == .below || standing == .same
  | equal, standing => standing == .same
  | notEqual, standing => standing != .same
  | greaterEqual, standing => standing == .same || standing == .above
  | greater, standing => standing == .above
  | _, _ => false

end Operator

/-- The family that the values of a kind are to be of: among numbers the integers. -/
def FieldKind.family : FieldKind → ValueFamily
  | .string => .string
  | .number => .integer
  | .bool => .bool
  | .timestamp => .timestamp
  | .uuid => .uuid

/-- The filter that compares a field with a literal. -/
def comparisonWith (name : String) (op : Operator) (raw : String) : FilterTree :=
  { root := .comparison (.field name none) op (.value raw false) }

/-- Whether a field, read directly from items by the accessor, can be compared with a literal as it
stands: the literal is one of the kind of the field, and neither the case of letters nor the keyword
for missing values changes that. -/
structure Mapper.ComparesWith (m : Mapper ι) (name : String) (accessor : Accessor ι) (raw : String)
    (literal : Value) : Prop where
  field : ∃ map, m.find? name = some map ∧ map.mapping = .single accessor ∧ map.convertor = none
  direct : accessor.isNested = false
  exactCase : m.config.caseInsensitiveFiltering = false
  notEmpty : raw ≠ ""
  noKeyword : ¬(m.config.allowNullKeyword = true ∧ raw = "null")
  isRead : Value.read? accessor.kind m.config.defaultOffset raw = some literal
  integer : accessor.kind = .number → ValueFamily.integer.Has literal

/-! ## The filter for one comparison. -/

variable {m : Mapper ι} {name raw : String} {accessor : Accessor ι} {literal : Value}

theorem Mapper.ComparesWith.has (h : m.ComparesWith name accessor raw literal) :
    accessor.kind.family.Has literal := by
  have hkind := Value.kind?_of_read? h.isRead
  have hinteger := h.integer
  generalize accessor.kind = kind at hkind hinteger
  cases literal with
  | number n =>
    cases hkind
    exact hinteger rfl
  | absent => cases hkind
  | string s => cases hkind; exact .string s
  | bool b => cases hkind; exact .bool b
  | timestamp t => cases hkind; exact .timestamp t
  | uuid u => cases hkind; exact .uuid u

/-- Such a comparison asks for its literal, as it stands. -/
theorem condition_of_comparesWith (h : m.ComparesWith name accessor raw literal)
    {map : FieldMap ι} (hconvertor : map.convertor = none) {op : Operator}
    (hop : op ∈ Operator.comparisons) :
    Condition.of m.config m.operators map accessor name op raw false =
      .ok (.test (.compare op literal false)) := by
  have hbuiltin : ∀ symbol, op ≠ .custom symbol := by
    rintro symbol rfl
    simp [Operator.comparisons] at hop
  have hnotText : ∀ op ∈ Operator.comparisons, op.isText = false := by decide
  have hkeyword : (m.config.allowNullKeyword && raw == "null") = false := by
    cases hallow : m.config.allowNullKeyword with
    | false => rfl
    | true => exact beq_eq_false_iff_ne.2 fun hnull => h.noKeyword ⟨hallow, hnull⟩
  have hliteral :
      Condition.literal? m.config map.convertor accessor.kind op raw = some literal := by
    simp [Condition.literal?, hconvertor, hnotText op hop, h.isRead]
  have hcondition := @Compiler.condition_of_builtin ι { mapper := m } map accessor
    ⟨name, none, op, raw, false⟩ hbuiltin
  simp only [hliteral] at hcondition
  rw [hcondition]
  have hbare : (⟨name, none, op, raw, false⟩ : Comparison).isBare = false := by
    simp [Comparison.isBare, h.notEmpty]
  have hword : (⟨name, none, op, raw, false⟩ : Comparison).isWithKeyword m.config = false := by
    simp only [Comparison.isWithKeyword, Bool.not_false, Bool.and_true, Bool.and_assoc, hkeyword,
      Bool.and_false]
  simp [hbare, hword, Comparison.ignoresCase, h.exactCase]

/-- A comparison of a field that is read directly from items tests the value that is read. -/
theorem exists_build_comparison (h : m.ComparesWith name accessor raw literal) {op : Operator}
    (hop : op ∈ Operator.comparisons) :
    ∃ filter, ({ mapper := m } : Compiler ι).build (predicateBackend ι)
        (comparisonWith name op raw) = .ok filter ∧
      ∀ item, filter.accepts item =
        (Test.compare op literal false).accepts (accessor.read item) := by
  obtain ⟨map, hmap, hmapping, hconvertor⟩ := h.field
  have hcondition := condition_of_comparesWith h hconvertor hop
  cases hchain : accessor.chain with
  | each path elements inner =>
    have hdirect := h.direct
    simp [Accessor.isNested, hchain, Chain.isNested] at hdirect
  | value read =>
    have hpart : ({ mapper := m } : Compiler ι).accessorPart (predicateBackend ι) map name none op
        raw false accessor = .ok (.closed ⟨fun item =>
          (Test.compare op literal false).accepts (read item), false⟩, none) := by
      rw [Compiler.accessorPart, hcondition, hchain]
      rfl
    have haccessors : map.accessors none = .ok (accessor, []) := by
      simp only [FieldMap.accessors, hmapping]
    have hcomparison := Compiler.comparison_of_parts hmap haccessors hpart rfl rfl
    refine ⟨_, Compiler.build_eq_ok_iff.2 ⟨rfl, _, _, .comparison hcomparison, rfl, ?_⟩, ?_⟩
    · exact fun _ => rfl
    intro item
    simp only [Built.accepts, Accessor.read, hchain]

/-! ## Tests and order by standing. -/

variable {family : ValueFamily} {v w : Value}

theorem standing_of_has (h : family.Has v) :
    v.standing family literal = .of (family.order v literal) := by
  rw [Value.standing, h.isAbsent_eq_false]
  rfl

theorem standing_beq_missing : (v.standing family literal == .missing) = v.isAbsent := by
  unfold Value.standing
  cases v.isAbsent with
  | true => rfl
  | false => cases family.order v literal <;> rfl

/-- A test asks where the value stands in relation to the literal. -/
theorem accepts_eq_holdsAt (hv : v = .absent ∨ family.Has v) (hliteral : family.Has literal)
    {op : Operator} (hop : op ∈ Operator.comparisons) :
    (Test.compare op literal false).accepts v = op.holdsAt (v.standing family literal) := by
  simp only [Operator.comparisons, List.mem_cons, List.not_mem_nil, or_false] at hop
  rcases hv with rfl | hv
  · rcases hop with rfl | rfl | rfl | rfl | rfl | rfl <;> rfl
  · rw [standing_of_has hv]
    rcases hop with rfl | rfl | rfl | rfl | rfl | rfl <;>
      simp only [Test.accepts, holdsPositive, hv.isAbsent_eq_false,
        hv.compareSet?_eq_order hliteral] <;>
      cases family.order v literal <;> rfl

/-- Along ascending values none stands before an earlier one. -/
theorem rank_standing_le (hv : v = .absent ∨ family.Has v) (hw : w = .absent ∨ family.Has w)
    (h : ¬(⟨name, .ascending, .value⟩ : SortKey).Precedes w v) :
    (v.standing family literal).rank ≤ (w.standing family literal).rank := by
  have hthree : ∀ standing : Standing, standing.rank ≤ 3 := by rintro (_ | _ | _ | _) <;> decide
  rcases hw with rfl | hw
  · exact hthree _
  rcases hv with rfl | hv
  · -- What is there precedes what is missing.
    exact absurd (.inr ⟨hw.ne_absent, rfl⟩) h
  · rw [standing_of_has hv, standing_of_has hw]
    have hle : (family.order v w).isLE := by
      rw [← Ordering.ne_gt_iff_isLE, Std.OrientedCmp.gt_iff_lt, ← hw.below_iff_order hv]
      exact fun hbelow => h (.inl hbelow)
    cases hliteral : family.order w literal with
    | lt =>
      have hlt := Std.TransCmp.lt_of_isLE_of_lt hle hliteral
      simp only [hlt, Nat.le_refl]
    | eq =>
      have htrans : (family.order v literal).isLE :=
        Std.TransCmp.isLE_trans hle (by rw [hliteral]; rfl)
      cases ho : family.order v literal with
      | gt => simp [ho] at htrans
      | _ => decide
    | gt => cases family.order v literal <;> decide

/-! ## Cutting lists by standing. -/

section

variable {standing : ι → Standing} {items : List ι}

/-- A list along which none stands before an earlier one is made of four pieces. -/
theorem pieces_of_pairwise
    (h : items.Pairwise fun a b => (standing a).rank ≤ (standing b).rank) :
    items.filter (standing · == .below) ++ items.filter (standing · == .same) ++
      items.filter (standing · == .above) ++ items.filter (standing · == .missing) = items := by
  induction h with
  | nil => rfl
  | @cons item items hlater _ ih =>
    -- Pieces before the one of the first item are empty.
    have hempty : ∀ s : Standing, s.rank < (standing item).rank →
        items.filter (standing · == s) = [] := by
      intro s hs
      rw [List.filter_eq_nil_iff]
      intro later hmem heq
      have hle := hlater later hmem
      rw [beq_iff_eq.1 heq] at hle
      omega
    cases hs : standing item with
    | below => simpa [List.filter_cons, hs] using ih
    | same =>
      have hbelow := hempty .below (by rw [hs]; decide)
      simpa [List.filter_cons, hs, hbelow] using ih
    | above =>
      have hbelow := hempty .below (by rw [hs]; decide)
      have hsame := hempty .same (by rw [hs]; decide)
      simpa [List.filter_cons, hs, hbelow, hsame] using ih
    | missing =>
      have hbelow := hempty .below (by rw [hs]; decide)
      have hsame := hempty .same (by rw [hs]; decide)
      have habove := hempty .above (by rw [hs]; decide)
      simpa [List.filter_cons, hs, hbelow, hsame, habove] using ih

theorem filter_filter_standing (holds : Standing → Bool) (s : Standing) :
    (items.filter fun item => holds (standing item)).filter (standing · == s) =
      if holds s then items.filter (standing · == s) else [] := by
  rw [List.filter_filter]
  cases hs : holds s with
  | true =>
    refine List.filter_congr fun item _ => ?_
    by_cases heq : standing item = s <;> simp [heq, hs]
  | false =>
    simp only [Bool.false_eq_true, if_false, List.filter_eq_nil_iff]
    intro item _ hitem
    simp only [Bool.and_eq_true, beq_iff_eq] at hitem
    rw [hitem.1, hs] at hitem
    exact absurd hitem.2 nofun

/-- What stands in some places of such a list are the pieces there. -/
theorem filter_eq_pieces
    (h : items.Pairwise fun a b => (standing a).rank ≤ (standing b).rank)
    (holds : Standing → Bool) :
    items.filter (fun item => holds (standing item)) =
      (if holds .below then items.filter (standing · == .below) else []) ++
        (if holds .same then items.filter (standing · == .same) else []) ++
        (if holds .above then items.filter (standing · == .above) else []) ++
        (if holds .missing then items.filter (standing · == .missing) else []) := by
  rw [← pieces_of_pairwise (h.filter _)]
  simp only [filter_filter_standing]

end

/-! ## Sorted items and filters. -/

/-- Items can be sorted by a field that they are compared by, so that no value precedes an earlier
one. -/
theorem exists_ascending {items : List ι} (h : m.ComparesWith name accessor raw literal)
    (hvalues : ∀ item ∈ items, accessor.read item = .absent ∨ family.Has (accessor.read item)) :
    ∃ sorted, m.sort items [⟨name, .ascending, .value⟩] = .ok sorted ∧ sorted.Perm items ∧
      sorted.Pairwise fun a b =>
        ¬(⟨name, .ascending, .value⟩ : SortKey).Precedes (accessor.read b) (accessor.read a) := by
  obtain ⟨map, hmap, hmapping, -⟩ := h.field
  have hreads : m.SortsByAll [⟨name, .ascending, .value⟩]
      [(accessor, ⟨name, .ascending, .value⟩)] :=
    .cons ⟨⟨map, hmap, hmapping, h.direct⟩, rfl⟩ .nil
  have hstable : IsStableSort [(accessor, ⟨name, .ascending, .value⟩)] items _ :=
    mergeSort_isStableSort fun reader key hread => by
      cases List.mem_singleton.1 hread
      exact ⟨family, fun item hitem _ => hvalues item hitem⟩
  refine ⟨_, Mapper.sort_eq_ok_iff.2 ⟨_, hreads, rfl⟩, hstable.perm, ?_⟩
  exact hstable.ordered.imp fun hnot hprecedes => hnot (.inl hprecedes)

/-- Items in ascending order of a field are, one after the other, those below a literal, those equal
to it, those above it and those without a value; each comparison of the field with the literal finds
the pieces that it names, and only that with `!=` the items without a value. -/
theorem filters_cut_sorted (m : Mapper ι) (items : List ι) {name raw : String}
    {accessor : Accessor ι} {literal : Value} (h : m.ComparesWith name accessor raw literal)
    (hvalues : ∀ item ∈ items,
      accessor.read item = .absent ∨ accessor.kind.family.Has (accessor.read item)) :
    ∃ sorted below same above missing : List ι,
      m.sort items [⟨name, .ascending, .value⟩] = .ok sorted ∧ sorted.Perm items ∧
      sorted = below ++ same ++ above ++ missing ∧
      missing = sorted.filter (fun item => (accessor.read item).isAbsent) ∧
      ∀ op found, (op, found) ∈ [(.less, below), (.equal, same), (.greater, above),
          (.lessEqual, below ++ same), (.greaterEqual, same ++ above),
          (.notEqual, below ++ above ++ missing)] →
        ∃ filter, ({ mapper := m } : Compiler ι).build (predicateBackend ι)
            (comparisonWith name op raw) = .ok filter ∧
          filter.apply sorted = found ∧ found.Perm (filter.apply items) := by
  obtain ⟨sorted, hsort, hperm, hordered⟩ := exists_ascending h hvalues
  have hsorted : ∀ item ∈ sorted,
      accessor.read item = .absent ∨ accessor.kind.family.Has (accessor.read item) :=
    fun item hitem => hvalues item (hperm.mem_iff.1 hitem)
  -- The literal is one of the family, so that each value stands somewhere in relation to it.
  let standing (item : ι) := (accessor.read item).standing accessor.kind.family literal
  have hrank : sorted.Pairwise fun a b => (standing a).rank ≤ (standing b).rank :=
    hordered.imp_of_mem fun ha hb hnot => rank_standing_le (hsorted _ ha) (hsorted _ hb) hnot
  let piece (s : Standing) := sorted.filter (standing · == s)
  have hfound : ∀ op ∈ Operator.comparisons,
      ∃ filter, ({ mapper := m } : Compiler ι).build (predicateBackend ι)
          (comparisonWith name op raw) = .ok filter ∧
        filter.apply sorted = sorted.filter (fun item => op.holdsAt (standing item)) := by
    intro op hop
    obtain ⟨filter, hfilter, haccepts⟩ := exists_build_comparison h hop
    refine ⟨filter, hfilter, List.filter_congr fun item hitem => ?_⟩
    rw [haccepts, accepts_eq_holdsAt (hsorted item hitem) h.has hop]
  refine ⟨sorted, piece .below, piece .same, piece .above, piece .missing, hsort, hperm,
    (pieces_of_pairwise hrank).symm, ?_, ?_⟩
  · exact List.filter_congr fun item _ => standing_beq_missing
  · intro op found hpair
    -- Each operator holds of some of the four standings, and finds the pieces of these.
    have hpieces : op ∈ Operator.comparisons ∧
        sorted.filter (fun item => op.holdsAt (standing item)) = found := by
      rw [filter_eq_pieces hrank]
      simp only [List.mem_cons, Prod.mk.injEq, List.not_mem_nil, or_false] at hpair
      rcases hpair with
          ⟨rfl, rfl⟩ | ⟨rfl, rfl⟩ | ⟨rfl, rfl⟩ | ⟨rfl, rfl⟩ | ⟨rfl, rfl⟩ | ⟨rfl, rfl⟩ <;>
        exact ⟨by decide, by simp [Operator.holdsAt, piece]⟩
    obtain ⟨filter, hfilter, happly⟩ := hfound op hpieces.1
    have hfound : filter.apply sorted = found := happly.trans hpieces.2
    exact ⟨filter, hfilter, hfound, hfound ▸ hperm.filter _⟩

theorem filters_cut_sorted_numbers :
    maybeNumberMapper.ComparesWith "n" maybeNumber "2" (.number (.signed 2)) ∧
    ∃ below same above, [some 1, some 2, some 3, none] = below ++ same ++ above ++ [none] ∧
      ∃ filter, ({ mapper := maybeNumberMapper } : Compiler (Option Int64)).build
          (predicateBackend (Option Int64)) (comparisonWith "n" .lessEqual "2") = .ok filter ∧
        filter.apply [some 1, some 2, some 3, none] = below ++ same := by
  have hcompares : maybeNumberMapper.ComparesWith "n" maybeNumber "2" (.number (.signed 2)) :=
    { field := ⟨⟨"n", .single maybeNumber, none⟩, rfl, rfl, rfl⟩
      direct := rfl
      exactCase := rfl
      notEmpty := by decide
      noKeyword := by decide
      isRead := rfl
      integer := fun _ => .integer rfl }
  obtain ⟨sorted, below, same, above, missing, hsort, -, hcut, hmissing, hfound⟩ :=
    filters_cut_sorted maybeNumberMapper [some 3, none, some 1, some 2] hcompares
      fun item _ => by
        cases item with
        | none => exact .inl rfl
        | some n => exact .inr (.integer rfl)
  have hvalue : maybeNumberMapper.sort [some 3, none, some 1, some 2]
      [⟨"n", .ascending, .value⟩] = .ok [some 1, some 2, some 3, none] := by
    change Except.ok (List.mergeSort [some 3, none, some 1, some 2] _) = _
    simp +decide [List.mergeSort]
  cases Except.ok.inj (hsort.symm.trans hvalue)
  obtain ⟨filter, hfilter, happly, -⟩ := hfound .lessEqual (below ++ same) (by simp)
  rw [show missing = [none] from hmissing] at hcut
  exact ⟨hcompares, below, same, above, hcut, filter, hfilter, happly⟩

end FilterQuery
