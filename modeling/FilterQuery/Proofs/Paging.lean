import FilterQuery.Proofs.StableSort
import FilterQuery.Results.Query

/-!
# Pages of a query

A query finds the items that satisfy its filter, puts them in order and cuts one page from them. How
many are found does not depend on the page, and the pages of one size tile what is found: no item is
on two of them, and none is left out.

## Key results

- `run_eq_ok_iff`: the result of a query, in terms of what it finds
- `page_skip_eq`: places beyond the greatest count lie behind all items, so that a page is never
  mistaken for another
- `tiles_window`: what is cut from a list page by page tiles it
- `run_tiles`: the results of a query and of its pages
-/

namespace FilterQuery.Query

variable {ι : Type}

/-- What a query finds: the filter that its text stands for, and the items that satisfy it in the
order that its text asks for. -/
structure Finds (query : Query) (m : Mapper ι) (items : List ι) (filter : Built (ι → Bool))
    (ordered : List ι) : Prop where
  filtered : ({ mapper := m } : Compiler ι).compile (query.filter.getD "") = .ok filter
  sorted : ∃ keys, SortKey.readAll (query.orderBy.getD "") = .ok keys ∧
    m.sort (items.filter filter.accepts) keys = .ok ordered

/-- The number of pages of the given size that a list takes. -/
def pageCount (size : Nat) (ordered : List ι) : Nat := (ordered.length + size - 1) / size

/-- Whether pages of the given size, from page 1 on, tile a list. -/
structure Tiles (pages : Nat → List ι) (size : Nat) (ordered : List ι) : Prop where
  /-- A page holds what stands at its place in the list. -/
  window : ∀ number, pages number = (ordered.drop ((number - 1) * size)).take size
  /-- Page 0 is page 1. -/
  zero : pages 0 = pages 1
  /-- The pages one after the other are the list. -/
  whole : (List.range' 1 (pageCount size ordered)).flatMap pages = ordered
  /-- All pages before the last one are full. -/
  full : ∀ number, 0 < number → number < pageCount size ordered → (pages number).length = size
  /-- The last page is not empty. -/
  last : ordered ≠ [] → pages (pageCount size ordered) ≠ []
  /-- Pages behind the last one are empty. -/
  behind : ∀ number, pageCount size ordered < number → pages number = []

/-! ## One page. -/

/-- Once its texts are read, a query can only fail because of fields that cannot be sorted by. -/
theorem run_eq_map_sort {query : Query} {m : Mapper ι} {filter : Built (ι → Bool)}
    {keys : List SortKey}
    (hfilter : ({ mapper := m } : Compiler ι).compile (query.filter.getD "") = .ok filter)
    (hkeys : SortKey.readAll (query.orderBy.getD "") = .ok keys) (items : List ι) :
    query.run m items = (m.sort (items.filter filter.accepts) keys).map fun ordered =>
      ⟨items.countP filter.accepts,
        query.take.elim id List.take (ordered.drop (query.skip.getD 0))⟩ := by
  rw [run, hfilter, hkeys, List.countP_eq_length_filter]
  cases keys with
  | nil =>
    rw [m.sort_nil]
    cases query.take <;> rfl
  | cons key keys =>
    change (m.sort (items.filter filter.accepts) (key :: keys) >>= _) = _
    cases m.sort (items.filter filter.accepts) (key :: keys) with
    | error problem => rfl
    | ok ordered => cases query.take <;> rfl

/-- A query has a result iff it finds something, and the result is one page of that. -/
theorem run_eq_ok_iff {query : Query} {m : Mapper ι} {items : List ι} {page : Page ι} :
    query.run m items = .ok page ↔
      ∃ filter ordered, query.Finds m items filter ordered ∧
        page = ⟨items.countP filter.accepts,
          query.take.elim id List.take (ordered.drop (query.skip.getD 0))⟩ := by
  constructor
  · intro h
    obtain ⟨filter, hfilter, hrest⟩ := bind_eq_ok.1 h
    cases hkeys : SortKey.readAll (query.orderBy.getD "") with
    | error problem =>
      rw [hkeys] at hrest
      cases hrest
    | ok keys =>
      rw [run_eq_map_sort hfilter hkeys] at h
      cases hsort : m.sort (items.filter filter.accepts) keys with
      | error problem =>
        rw [hsort] at h
        cases h
      | ok ordered =>
        rw [hsort] at h
        cases h
        exact ⟨filter, ordered, ⟨hfilter, keys, hkeys, hsort⟩, rfl⟩
  · rintro ⟨filter, ordered, ⟨hfilter, keys, hkeys, hsort⟩, rfl⟩
    rw [run_eq_map_sort hfilter hkeys, hsort]
    rfl

/-- Where the place of a page is beyond the greatest count, there are no items at either. -/
theorem page_skip_eq {ordered : List ι} (h : ordered.length ≤ maxCount) (query : Query)
    (number size : Nat) :
    ordered.drop ((query.page number size).skip.getD 0) = ordered.drop ((number - 1) * size) := by
  change ordered.drop (min ((number - 1) * size) maxCount) = _
  rcases Nat.le_total ((number - 1) * size) maxCount with hle | hge
  · rw [Nat.min_eq_left hle]
  · -- The list is no longer than the greatest count, so nothing is left behind either place.
    rw [Nat.min_eq_right hge, List.drop_eq_nil_of_le h, List.drop_eq_nil_of_le (Nat.le_trans h hge)]

/-! ## All pages. -/

theorem pageCount_le_iff {size : Nat} (h : 0 < size) (ordered : List ι) (number : Nat) :
    pageCount size ordered ≤ number ↔ ordered.length ≤ number * size := by
  rw [pageCount, Nat.div_le_iff_le_mul_add_pred h, Nat.mul_comm]
  omega

theorem flatMap_window (ordered : List ι) (size count : Nat) :
    (List.range' 1 count).flatMap (fun number => (ordered.drop ((number - 1) * size)).take size) =
      ordered.take (count * size) := by
  induction count with
  | zero => simp
  | succ count ih =>
    rw [List.range'_concat, List.flatMap_append, ih, Nat.succ_mul count size, List.take_add]
    simp

theorem tiles_window {size : Nat} (h : 0 < size) (ordered : List ι) :
    Tiles (fun number => (ordered.drop ((number - 1) * size)).take size) size ordered where
  window _ := rfl
  zero := rfl
  whole := by
    rw [flatMap_window]
    exact List.take_of_length_le ((pageCount_le_iff h ordered _).1 (Nat.le_refl _))
  full number hpos hlt := by
    have hmore : ¬ordered.length ≤ number * size :=
      fun hle => Nat.not_le.2 hlt ((pageCount_le_iff h ordered number).2 hle)
    obtain ⟨before, rfl⟩ := Nat.exists_eq_succ_of_ne_zero (Nat.ne_of_gt hpos)
    rw [Nat.succ_mul] at hmore
    rw [List.length_take, List.length_drop, Nat.succ_sub_one]
    omega
  last hne := by
    have hpos : 0 < ordered.length := List.length_pos_iff.2 hne
    -- One page less would not hold the list.
    have hmore : ¬ordered.length ≤ (pageCount size ordered - 1) * size := by
      rw [← pageCount_le_iff h]
      have hcount : ¬pageCount size ordered ≤ 0 := by
        rw [pageCount_le_iff h]
        omega
      omega
    rw [ne_eq, List.take_eq_nil_iff, List.drop_eq_nil_iff]
    omega
  behind number hlt := by
    have hless : ordered.length ≤ (number - 1) * size :=
      (pageCount_le_iff h ordered _).1 (Nat.le_sub_one_of_lt hlt)
    rw [List.drop_eq_nil_of_le hless, List.take_nil]

/-! ## Queries for everything. -/

/-- A query without filter, order and page finds all items as they are. -/
theorem finds_of_isEmpty {query : Query} (h : query.isEmpty = true) (m : Mapper ι)
    (items : List ι) : ∃ filter, query.Finds m items filter items ∧
      items.countP filter.accepts = items.length := by
  obtain ⟨⟨⟨hfilter, horder⟩, -⟩, -⟩ :
      ((isBlank query.filter = true ∧ isBlank query.orderBy = true) ∧ _) ∧ _ := by
    simpa only [isEmpty, Bool.and_eq_true] using h
  refine ⟨⟨fun _ => true, false⟩, ⟨if_pos hfilter, [], if_pos horder, ?_⟩, ?_⟩
  · have hall : items.filter (fun _ => true) = items := List.filter_eq_self.2 fun _ _ => rfl
    exact (congrArg (m.sort · []) hall).trans (m.sort_nil items)
  · exact List.countP_eq_length.2 fun _ _ => rfl

/-- A query that has a result counts the items that satisfy its filter, whichever page it asks for;
the pages of any size tile these items in the order of the query, and none is mistaken for another
because of a great number.  An empty query returns all items as they are. -/
theorem run_tiles (m : Mapper ι) (items : List ι) (query : Query)
    (hitems : items.length ≤ maxCount) :
    (∀ page, query.run m items = .ok page →
      ∃ filter ordered, query.Finds m items filter ordered ∧
        ordered.Perm (items.filter filter.accepts) ∧
        page.count = items.countP filter.accepts ∧
        page.items = query.take.elim id List.take (ordered.drop (query.skip.getD 0)) ∧
        (∀ skip take, { query with skip, take }.run m items =
          .ok ⟨page.count, take.elim id List.take (ordered.drop (skip.getD 0))⟩) ∧
        (∀ number size, (query.page number size).run m items =
          .ok ⟨page.count, (ordered.drop ((number - 1) * size)).take size⟩) ∧
        ∀ size, 0 < size → ∃ pages : Nat → List ι, Tiles pages size ordered ∧
          ∀ number, (query.page number size).run m items = .ok ⟨page.count, pages number⟩) ∧
    (query.isEmpty = true → query.run m items = .ok ⟨items.length, items⟩) := by
  constructor
  · intro page hrun
    obtain ⟨filter, ordered, hfinds, rfl⟩ := run_eq_ok_iff.1 hrun
    obtain ⟨hfilter, keys, hkeys, hsort⟩ := hfinds
    have hperm := Mapper.sort_perm hsort
    have hlength : ordered.length ≤ maxCount := by
      rw [hperm.length_eq]
      exact Nat.le_trans (List.length_filter_le _ _) hitems
    have hpage : ∀ number size, (query.page number size).run m items =
        .ok ⟨items.countP filter.accepts, (ordered.drop ((number - 1) * size)).take size⟩ := by
      intro number size
      rw [← page_skip_eq hlength query]
      exact run_eq_ok_iff.2 ⟨filter, ordered, ⟨hfilter, keys, hkeys, hsort⟩, rfl⟩
    refine ⟨filter, ordered, ⟨hfilter, keys, hkeys, hsort⟩, hperm, rfl, rfl, ?_, hpage, ?_⟩
    · intro skip take
      exact run_eq_ok_iff.2 ⟨filter, ordered, ⟨hfilter, keys, hkeys, hsort⟩, rfl⟩
    · intro size hsize
      exact ⟨_, tiles_window hsize ordered, fun number => hpage number size⟩
  · intro hempty
    obtain ⟨filter, hfinds, hcount⟩ := finds_of_isEmpty hempty m items
    refine run_eq_ok_iff.2 ⟨filter, items, hfinds, ?_⟩
    obtain ⟨⟨-, hskip⟩, htake⟩ : (_ ∧ query.skip = none) ∧ query.take = none := by
      simpa [isEmpty] using hempty
    simp [hskip, htake, hcount]

/-- The numbers above one, in order. -/
def numbersAboveOne : Query := { filter := some "n>1", orderBy := some "n" }

theorem run_tiles_numbers :
    numbersAboveOne.run maybeNumberMapper [some 4, none, some 1, some 3, some 2] =
      .ok ⟨3, [some 2, some 3, some 4]⟩ ∧
    (∃ pages ordered, Tiles pages 2 ordered ∧ ∀ number,
      (numbersAboveOne.page number 2).run maybeNumberMapper
        [some 4, none, some 1, some 3, some 2] = .ok ⟨3, pages number⟩) ∧
    ({} : Query).run maybeNumberMapper [some 4, none] = .ok ⟨2, [some 4, none]⟩ := by
  let c : Compiler (Option Int64) := { mapper := maybeNumberMapper }
  have hparse :
      c.parse "n>1" = ⟨.comparison (.field "n" none) .greater (.value "1" false), []⟩ := by
    decide +kernel
  let aboveOne := Test.compare .greater (.number (.signed 1)) false
  have hfilter :
      c.compile "n>1" = .ok ⟨fun item => aboveOne.accepts (maybeNumber.read item), false⟩ := by
    rw [Compiler.compile, Compiler.buildText, hparse]
    rfl
  have hsort : maybeNumberMapper.sort [some 4, some 3, some 2] [⟨"n", .ascending, .value⟩] =
      .ok [some 2, some 3, some 4] := by
    change Except.ok (List.mergeSort [some 4, some 3, some 2] _) = _
    simp +decide [List.mergeSort]
  have hrun : numbersAboveOne.run maybeNumberMapper [some 4, none, some 1, some 3, some 2] =
      .ok ⟨3, [some 2, some 3, some 4]⟩ :=
    run_eq_ok_iff.2 ⟨_, _, ⟨hfilter, _, rfl, hsort⟩, rfl⟩
  obtain ⟨hpages, -⟩ := run_tiles maybeNumberMapper [some 4, none, some 1, some 3, some 2]
    numbersAboveOne (by decide)
  obtain ⟨-, ordered, -, -, -, -, -, -, htiles⟩ := hpages _ hrun
  obtain ⟨pages, htiles, hpage⟩ := htiles 2 (by decide)
  exact ⟨hrun, ⟨pages, ordered, htiles, hpage⟩,
    (run_tiles maybeNumberMapper [some 4, none] {} (by decide)).2 (by decide)⟩

end FilterQuery.Query
