import FilterQuery.Proofs.Compilation
import FilterQuery.Proofs.ValueOrder
import FilterQuery.Results.Sorting
import Mathlib.Data.List.Pairwise

/-!
# Sorting is stable

Items are sorted by several keys, the first one that tells two of them apart deciding. This is an
order of the items as long as the values of each field are of one family; it then does not matter in
which way they are sorted, except that items which no key tells apart stay in the order they had.

## Key results

- `exists_order`, `comparesTotally`: several keys compare items by a total order
- `mergeSort_isStableSort`: sorting by such an order puts items in order and leaves the others
- `sort_isStableSort`: sorting by fields that can be sorted by, and by others
-/

namespace FilterQuery

variable {ι : Type}

/-! ## Items in order. -/

/-- Whether an item comes before another: the first key that tells them apart decides. -/
def Before : List (Accessor ι × SortKey) → ι → ι → Prop
  | [], _, _ => False
  | (accessor, key) :: keys, a, b =>
    key.Precedes (accessor.read a) (accessor.read b) ∨
      ¬key.Precedes (accessor.read b) (accessor.read a) ∧ Before keys a b

/-- Whether no key tells two items apart. -/
def Tied (keys : List (Accessor ι × SortKey)) (a b : ι) : Prop :=
  ∀ accessor key, (accessor, key) ∈ keys →
    ¬key.Precedes (accessor.read a) (accessor.read b) ∧
      ¬key.Precedes (accessor.read b) (accessor.read a)

/-- Whether the keys compare the given items by a total order, in which several may be equal. -/
structure ComparesTotally (keys : List (Accessor ι × SortKey)) (items : List ι) : Prop where
  swap : ∀ a ∈ items, ∀ b ∈ items, compareItems a b keys = (compareItems b a keys).swap
  trans : ∀ a ∈ items, ∀ b ∈ items, ∀ c ∈ items, (compareItems a b keys).isLE = true →
    (compareItems b c keys).isLE = true → (compareItems a c keys).isLE = true

/-- Whether a list holds the given items in the order of the keys, and in the order they had where
no key tells them apart. -/
structure IsStableSort (keys : List (Accessor ι × SortKey)) (items sorted : List ι) : Prop where
  perm : sorted.Perm items
  ordered : sorted.Pairwise fun a b => ¬Before keys b a
  stable : ∀ same : ι → Bool,
    (∀ a ∈ items, ∀ b ∈ items, same a = true → same b = true → Tied keys a b) →
      sorted.filter same = items.filter same

namespace Mapper

/-- Whether a key can be sorted by, and how its field is then read: directly from an item. -/
def SortsBy (m : Mapper ι) (key : SortKey) (accessor : Accessor ι) : Prop :=
  ∃ map, m.find? key.member = some map ∧ map.mapping = .single accessor ∧
    accessor.isNested = false

/-- Whether all keys can be sorted by, and how their fields are then read. -/
def SortsByAll (m : Mapper ι) (keys : List SortKey) (reads : List (Accessor ι × SortKey)) : Prop :=
  List.Forall₂ (fun key read => m.SortsBy key read.1 ∧ read.2 = key) keys reads

end Mapper

/-! ## Sorting by a total order. -/

section

variable {cmp : ι → ι → Ordering} [Std.TransCmp cmp]

theorem isLE_total (a b : ι) : ((cmp a b).isLE || (cmp b a).isLE) = true := by
  have hswap : cmp a b = (cmp b a).swap := Std.OrientedCmp.eq_swap
  rw [hswap]
  cases cmp b a <;> rfl

theorem pairwise_mergeSort_isLE (items : List ι) :
    (items.mergeSort fun a b => (cmp a b).isLE).Pairwise fun a b => (cmp a b).isLE = true :=
  List.pairwise_mergeSort (fun _ _ _ => Std.TransCmp.isLE_trans) isLE_total items

/-- Items that are equal in the order keep their places among each other. -/
theorem filter_mergeSort_isLE {items : List ι} {same : ι → Bool}
    (h : ∀ a ∈ items, ∀ b ∈ items, same a = true → same b = true → cmp a b = .eq) :
    (items.mergeSort fun a b => (cmp a b).isLE).filter same = items.filter same := by
  have hpairwise : (items.filter same).Pairwise fun a b => (cmp a b).isLE = true := by
    refine List.pairwise_of_forall_mem_list fun a ha b hb => ?_
    rw [List.mem_filter] at ha hb
    rw [h a ha.1 b hb.1 ha.2 hb.2]
    rfl
  -- The equal items are in order as they are, so that sorting does not touch them.
  have hsublist := (List.sublist_mergeSort (fun _ _ _ => Std.TransCmp.isLE_trans) isLE_total
    hpairwise List.filter_sublist).filter same
  rw [List.filter_filter] at hsublist
  simp only [Bool.and_self] at hsublist
  exact (hsublist.eq_of_length ((List.mergeSort_perm _ _).filter same).length_eq.symm).symm

end

/-! ## The order of several keys. -/

theorem Tied.symm {keys : List (Accessor ι × SortKey)} {a b : ι} (h : Tied keys a b) :
    Tied keys b a :=
  fun accessor key hmem => (h accessor key hmem).symm

/-- Of two items that no key tells apart neither comes before the other. -/
theorem Tied.not_before {keys : List (Accessor ι × SortKey)} {a b : ι} (h : Tied keys a b) :
    ¬Before keys a b := by
  induction keys with
  | nil => exact id
  | cons first keys ih =>
    rintro (hprecedes | ⟨-, hrest⟩)
    · exact (h _ _ List.mem_cons_self).1 hprecedes
    · exact ih (fun accessor key hmem => h accessor key (List.mem_cons_of_mem _ hmem)) hrest

theorem transCmp_read {α β : Type} (cmp : β → β → Ordering) [Std.TransCmp cmp] (read : α → β) :
    Std.TransCmp fun a b => cmp (read a) (read b) where
  eq_swap := Std.OrientedCmp.eq_swap
  isLE_trans := Std.TransCmp.isLE_trans

/-- Where the values of each field are of one family, several keys compare the items by a total
order. -/
theorem exists_order {items : List ι} (keys : List (Accessor ι × SortKey))
    (h : ∀ accessor key, (accessor, key) ∈ keys →
      ∃ family, ∀ item ∈ items, key.Takes family (accessor.read item)) :
    ∃ cmp : ι → ι → Ordering, Std.TransCmp cmp ∧ ∀ a ∈ items, ∀ b ∈ items,
      compareItems a b keys = cmp a b ∧ (Before keys a b ↔ cmp a b = .lt) := by
  induction keys with
  | nil =>
    refine ⟨fun _ _ => .eq, inferInstanceAs (Std.TransCmp (compareOn fun _ : ι => (0 : Nat))), ?_⟩
    exact fun a _ b _ => ⟨rfl, iff_of_false id nofun⟩
  | cons first keys ih =>
    obtain ⟨accessor, key⟩ := first
    obtain ⟨family, htakes⟩ := h accessor key List.mem_cons_self
    obtain ⟨cmp, htrans, hcmp⟩ := ih fun accessor key hmem =>
      h accessor key (List.mem_cons_of_mem _ hmem)
    have hread := transCmp_read (key.order family) accessor.read
    -- The order of the first key decides, and where it does not, that of the other keys.
    refine ⟨compareLex (fun a b => key.order family (accessor.read a) (accessor.read b)) cmp,
      inferInstance, fun a ha b hb => ?_⟩
    obtain ⟨hcompare, hbefore⟩ := hcmp a ha b hb
    have hlt := SortKey.precedes_iff_order (htakes a ha) (htakes b hb)
    have hgt : key.Precedes (accessor.read b) (accessor.read a) ↔
        key.order family (accessor.read a) (accessor.read b) = .gt := by
      rw [SortKey.precedes_iff_order (htakes b hb) (htakes a ha), Std.OrientedCmp.gt_iff_lt]
    constructor
    · rw [compareItems, SortKey.compare_eq_order (htakes a ha) (htakes b hb), hcompare, compareLex]
    · rw [Before, hlt, hgt, hbefore, compareLex]
      cases key.order family (accessor.read a) (accessor.read b) <;> simp

theorem comparesTotally {items : List ι} {keys : List (Accessor ι × SortKey)}
    (h : ∀ accessor key, (accessor, key) ∈ keys →
      ∃ family, ∀ item ∈ items, key.Takes family (accessor.read item)) :
    ComparesTotally keys items := by
  obtain ⟨cmp, htrans, hcmp⟩ := exists_order keys h
  constructor
  · intro a ha b hb
    rw [(hcmp a ha b hb).1, (hcmp b hb a ha).1]
    exact Std.OrientedCmp.eq_swap
  · intro a ha b hb c hc
    rw [(hcmp a ha b hb).1, (hcmp b hb c hc).1, (hcmp a ha c hc).1]
    exact Std.TransCmp.isLE_trans

/-- Where the values of each field are of one family, sorting puts items in order and leaves those
in their places that no key tells apart. -/
theorem mergeSort_isStableSort {items : List ι} {keys : List (Accessor ι × SortKey)}
    (h : ∀ accessor key, (accessor, key) ∈ keys →
      ∃ family, ∀ item ∈ items, key.Takes family (accessor.read item)) :
    IsStableSort keys items (items.mergeSort fun a b => compareItems a b keys != .gt) := by
  -- The keys alone need not order items that are not in the list, so a total order stands in.
  obtain ⟨cmp, htrans, hcmp⟩ := exists_order keys h
  have hbefore : ∀ a ∈ items, ∀ b ∈ items, (Before keys a b ↔ cmp a b = .lt) :=
    fun a ha b hb => (hcmp a ha b hb).2
  have hsort : items.mergeSort (fun a b => compareItems a b keys != .gt) =
      items.mergeSort fun a b => (cmp a b).isLE := by
    have hagree : ∀ a ∈ items, ∀ b ∈ items,
        (compareItems a b keys != .gt) = (cmp (id a) (id b)).isLE := by
      intro a ha b hb
      rw [(hcmp a ha b hb).1, id, id]
      cases cmp a b <;> rfl
    simpa using List.map_mergeSort (s := fun a b => (cmp a b).isLE) hagree
  rw [hsort]
  refine ⟨List.mergeSort_perm _ _, ?_, fun same hsame => ?_⟩
  · refine (pairwise_mergeSort_isLE items).imp_of_mem fun {a b} ha hb hle => ?_
    rw [List.mem_mergeSort] at ha hb
    rw [hbefore b hb a ha, ← Std.OrientedCmp.gt_iff_lt, Ordering.ne_gt_iff_isLE]
    exact hle
  · refine filter_mergeSort_isLE fun a ha b hb hsa hsb => ?_
    have htied := hsame a ha b hb hsa hsb
    have hnlt : cmp a b ≠ .lt := fun hlt => htied.not_before ((hbefore a ha b hb).2 hlt)
    have hngt : cmp a b ≠ .gt := fun hgt =>
      htied.symm.not_before ((hbefore b hb a ha).2 (Std.OrientedCmp.gt_iff_lt.1 hgt))
    cases horder : cmp a b with
    | lt => exact absurd horder hnlt
    | eq => rfl
    | gt => exact absurd horder hngt

/-! ## Sorting by fields. -/

namespace Mapper

variable {m : Mapper ι} {items : List ι} {keys : List SortKey}

theorem sortAccessor_eq_ok_iff {key : SortKey} {accessor : Accessor ι} :
    m.sortAccessor key = .ok accessor ↔ m.SortsBy key accessor := by
  unfold sortAccessor SortsBy
  cases hfind : m.find? key.member with
  | none => simp
  | some map =>
    cases hmapping : map.mapping with
    | single only =>
      simp only [hmapping, Option.some.injEq, exists_eq_left', Mapping.single.injEq]
      cases hnested : only.isNested with
      | true =>
        refine iff_of_false nofun ?_
        rintro ⟨rfl, h⟩
        simp [hnested] at h
      | false =>
        simp only [Bool.false_eq_true, if_false, Except.ok.injEq, iff_self_and]
        rintro rfl
        exact hnested
    | composite first rest => simp [hmapping]
    | parametrized ofKey => simp [hmapping]

/-- Sorting looks up all fields, and then nothing can go wrong. -/
theorem sort_eq_ok_iff {sorted : List ι} :
    m.sort items keys = .ok sorted ↔ ∃ reads, m.SortsByAll keys reads ∧
      sorted = items.mergeSort fun a b => compareItems a b reads != .gt := by
  have hkey : ∀ key (read : Accessor ι × SortKey),
      (do return (← m.sortAccessor key, key) : Except FilterError _) = .ok read ↔
        m.SortsBy key read.1 ∧ read.2 = key := by
    intro key read
    rw [bind_eq_ok, ← sortAccessor_eq_ok_iff]
    constructor
    · rintro ⟨accessor, haccessor, h⟩
      cases h
      exact ⟨haccessor, rfl⟩
    · rintro ⟨haccessor, rfl⟩
      exact ⟨read.1, haccessor, rfl⟩
  rw [sort, bind_eq_ok]
  simp only [mapM_eq_ok, hkey]
  constructor
  · rintro ⟨reads, hreads, h⟩
    cases h
    exact ⟨reads, hreads, rfl⟩
  · rintro ⟨reads, hreads, rfl⟩
    exact ⟨reads, hreads, rfl⟩

theorem SortsByAll.mem {reads : List (Accessor ι × SortKey)} (h : m.SortsByAll keys reads)
    {accessor : Accessor ι} {key : SortKey} (hread : (accessor, key) ∈ reads) :
    key ∈ keys ∧ m.SortsBy key accessor := by
  induction h with
  | nil => cases hread
  | cons hfirst _ ih =>
    rcases List.mem_cons.1 hread with rfl | hread
    · obtain ⟨hsorts, rfl⟩ := hfirst
      exact ⟨List.mem_cons_self, hsorts⟩
    · exact (ih hread).imp_left (List.mem_cons_of_mem _)

/-- Fields are read in one way for all keys if they are for each one. -/
theorem exists_sortsByAll_iff :
    (∃ reads, m.SortsByAll keys reads) ↔ ∀ key ∈ keys, ∃ accessor, m.SortsBy key accessor := by
  induction keys with
  | nil => exact iff_of_true ⟨[], .nil⟩ nofun
  | cons key keys ih =>
    rw [List.forall_mem_cons, ← ih]
    constructor
    · rintro ⟨reads, h⟩
      cases h with
      | cons hfirst hrest => exact ⟨⟨_, hfirst.1⟩, _, hrest⟩
    · rintro ⟨⟨accessor, hsorts⟩, reads, hrest⟩
      exact ⟨(accessor, key) :: reads, .cons ⟨hsorts, rfl⟩ hrest⟩

theorem sort_nil (m : Mapper ι) (items : List ι) : m.sort items [] = .ok items := by
  refine sort_eq_ok_iff.2 ⟨[], .nil, ?_⟩
  exact (List.mergeSort_of_pairwise (List.pairwise_of_forall_mem_list fun _ _ _ _ => rfl)).symm

theorem sort_perm {sorted : List ι} (h : m.sort items keys = .ok sorted) : sorted.Perm items := by
  obtain ⟨readers, -, rfl⟩ := sort_eq_ok_iff.1 h
  exact List.mergeSort_perm _ _

/-- Sorting by fields that are read directly from items, whose values are of one family each,
compares the items by a total order, puts them in it and leaves those in their places that no key
tells apart.  Other fields cannot be sorted by, and then the items stay as they are. -/
theorem sort_isStableSort (m : Mapper ι) (items : List ι) (keys : List SortKey)
    (hvalues : ∀ key ∈ keys, key.basis = .value → ∀ accessor, m.SortsBy key accessor →
      ∃ family : ValueFamily, ∀ item ∈ items,
        accessor.read item = .absent ∨ family.Has (accessor.read item)) :
    ((∀ key ∈ keys, ∃ accessor, m.SortsBy key accessor) →
      ∃ reads sorted, m.SortsByAll keys reads ∧ ComparesTotally reads items ∧
        m.sort items keys = .ok sorted ∧ IsStableSort reads items sorted) ∧
    (¬(∀ key ∈ keys, ∃ accessor, m.SortsBy key accessor) →
      ∃ error, m.sort items keys = .error error ∧
        (m.sort items keys).toOption.getD items = items) := by
  rw [← exists_sortsByAll_iff]
  constructor
  · rintro ⟨reads, hreads⟩
    have htakes : ∀ accessor key, (accessor, key) ∈ reads →
        ∃ family, ∀ item ∈ items, key.Takes family (accessor.read item) := by
      intro accessor key hread
      obtain ⟨hkey, hsorts⟩ := hreads.mem hread
      cases hbasis : key.basis with
      | value =>
        obtain ⟨family, hfamily⟩ := hvalues key hkey hbasis accessor hsorts
        exact ⟨family, fun item hitem _ => hfamily item hitem⟩
      | isSet | isNotSet =>
        -- Any family will do, since only presence is compared.
        exact ⟨.string, fun item _ h => by simp [hbasis] at h⟩
    exact ⟨reads, _, hreads, comparesTotally htakes, sort_eq_ok_iff.2 ⟨reads, hreads, rfl⟩,
      mergeSort_isStableSort htakes⟩
  · intro hnot
    cases hsort : m.sort items keys with
    | error error => exact ⟨error, rfl, rfl⟩
    | ok sorted =>
      obtain ⟨reads, hreads, -⟩ := sort_eq_ok_iff.1 hsort
      exact absurd ⟨reads, hreads⟩ hnot

end Mapper

/-- A field for numbers that are items themselves, or are missing. -/
def maybeNumber : Accessor (Option Int64) :=
  .computed .number true fun item => (item.map fun n => .number (.signed n)).getD .absent

/-- Items that are numbers or missing, with a field for them. -/
def maybeNumberMapper : Mapper (Option Int64) where
  maps := [{ name := "n", mapping := .single maybeNumber }]
  operators := .empty

theorem sort_isStableSort_numbers :
    (∃ reads sorted, maybeNumberMapper.SortsByAll [⟨"n", .descending, .value⟩] reads ∧
      sorted = [some 3, some 2, some 1, none] ∧
        IsStableSort reads [none, some 1, some 3, some 2] sorted) ∧
    ∃ error, maybeNumberMapper.sort [none, some 1] [⟨"m", .descending, .value⟩] = .error error := by
  have hfind : maybeNumberMapper.find? "n" = some ⟨"n", .single maybeNumber, none⟩ := rfl
  have hnone : maybeNumberMapper.find? "m" = none := rfl
  have hnot : ∀ accessor, ¬maybeNumberMapper.SortsBy ⟨"m", .descending, .value⟩ accessor := by
    rintro accessor ⟨map, hmap, -⟩
    cases hnone.symm.trans hmap
  constructor
  · have hsorts := Mapper.sort_isStableSort maybeNumberMapper [none, some 1, some 3, some 2]
      [⟨"n", .descending, .value⟩] fun key hkey _ accessor ⟨map, hmap, hmapping, _⟩ => by
        cases List.mem_singleton.1 hkey
        cases hfind.symm.trans hmap
        cases hmapping
        refine ⟨.integer, fun item _ => ?_⟩
        cases item with
        | none => exact .inl rfl
        | some n => exact .inr (.integer rfl)
    obtain ⟨reads, sorted, hreads, -, hsort, hstable⟩ := hsorts.1 fun key hkey => by
      cases List.mem_singleton.1 hkey
      exact ⟨maybeNumber, _, hfind, rfl, rfl⟩
    have hvalue : maybeNumberMapper.sort [none, some 1, some 3, some 2]
        [⟨"n", .descending, .value⟩] = .ok [some 3, some 2, some 1, none] := by
      change Except.ok (List.mergeSort [none, some 1, some 3, some 2] _) = _
      simp +decide [List.mergeSort]
    exact ⟨reads, sorted, hreads, Except.ok.inj (hsort.symm.trans hvalue), hstable⟩
  · have hsorts := Mapper.sort_isStableSort maybeNumberMapper [none, some 1]
      [⟨"m", .descending, .value⟩] fun key hkey _ accessor haccessor => by
        cases List.mem_singleton.1 hkey
        exact absurd haccessor (hnot accessor)
    obtain ⟨error, herror, -⟩ := hsorts.2 fun hall => by
      obtain ⟨accessor, haccessor⟩ := hall _ List.mem_cons_self
      exact hnot accessor haccessor
    exact ⟨error, herror⟩

end FilterQuery
