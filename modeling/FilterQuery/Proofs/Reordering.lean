import FilterQuery.Proofs.SharedElements

/-!
# The order of a conjunction in parentheses

A conjunction in parentheses is compiled from left to right. Each comparison is joined to those
before it on the collections that all of them go through first, and what is open beyond these is
closed and stays so. Comparisons on one collection thus share an element only as long as none in
between keeps them apart, and the order matters. It does not matter among comparisons that are
joined on the same collections.

`c.joints first rest` lists the comparisons, each with the paths it is joined on, and `c.Shares`
says what they ask together: there is one element for each of these paths, and every comparison
goes on from the last of its own.

## Key results

- `Joined.combine`, `exists_yields_conjunction`: what joining one more comparison, and all of them,
  comes to
- `accepts_perm_iff`: the order does not matter to the items that are accepted if it does not matter
  to the collections that comparisons are joined on
- `joints_perm_of_pairwise`: which is so for comparisons that all begin with the same collections
- `order_matters_toys`: and is not so in general
-/

namespace FilterQuery

variable {ι : Type}

/-- The conjunction of comparisons, from left to right. -/
def Comparison.conjunction (first : Comparison) (rest : List Comparison) : Expr :=
  rest.foldl (fun e q => .logical e .and q.expr) first.expr

namespace Compiler

/-- Whether the comparison is one of a mapped field, with a literal that fits all its accessors. -/
def Converts (c : Compiler ι) (q : Comparison) : Prop :=
  ∃ map first rest, c.mapper.find? q.name = some map ∧ map.accessors q.index = .ok (first, rest) ∧
    ∀ accessor ∈ first :: rest, c.Fits map accessor q

/-- The paths of the collections that the comparison goes through. One of a field with several
accessors is about the whole item. -/
def openPaths (c : Compiler ι) (q : Comparison) : List String :=
  match c.mapper.find? q.name with
  | none => []
  | some map =>
    match map.accessors q.index with
    | .ok (accessor, []) => accessor.chain.collections
    | _ => []

/-- Comparisons that are joined, one after another, to a conjunction that is open on the given
paths, each with the paths on which the conjunction is open then. -/
def joinedTo (c : Compiler ι) (opened : List String) :
    List Comparison → List (Comparison × List String)
  | [] => []
  | q :: qs =>
    (q, commonPrefix opened (c.openPaths q)) :: c.joinedTo (commonPrefix opened (c.openPaths q)) qs

/-- The paths on which the first of the comparisons is joined to the second one, if there is one. -/
def firstJoint (c : Compiler ι) (first : Comparison) : List Comparison → List String
  | [] => c.openPaths first
  | second :: _ => commonPrefix (c.openPaths first) (c.openPaths second)

/-- The comparisons of a conjunction, each with the paths on which it is joined to those before
it. -/
def joints (c : Compiler ι) (first : Comparison) (rest : List Comparison) :
    List (Comparison × List String) :=
  (first, c.firstJoint first rest) :: c.joinedTo (c.openPaths first) rest

/-- What the comparison asks of an element that the given number of its collections lead to. -/
def AsksAt (c : Compiler ι) (q : Comparison) (depth : Nat) (element : ι) : Prop :=
  ∃ part unfit, c.comparison (predicateBackend ι) q.name q.index q.op q.raw q.ignoreCase =
    .ok (part, unfit) ∧ (part.drop depth).Holds element

/-- Whether the element is as the comparisons ask that are joined at its depth. -/
def AllAsk (c : Compiler ι) (joints : List (Comparison × List String)) (depth : Nat)
    (element : ι) : Prop :=
  ∀ joint ∈ joints, joint.2.length = depth → c.AsksAt joint.1 depth element

/-- What comparisons that are joined along the paths ask together of an element at the given depth:
from here on there is one element for each path, and each comparison holds of the element that it
is joined at. -/
def Shares (c : Compiler ι) (joints : List (Comparison × List String)) :
    Nat → List String → ι → Prop
  | depth, [], element => c.AllAsk joints depth element
  | depth, path :: paths, element =>
    c.AllAsk joints depth element ∧
      ∃ inner, c.mapper.Contains path element inner ∧ c.Shares joints (depth + 1) paths inner

variable {c : Compiler ι}

theorem asksAt_iff {q : Comparison} {part : Part ι (ι → Bool)} {unfit : List UnfitValue}
    (h : c.comparison (predicateBackend ι) q.name q.index q.op q.raw q.ignoreCase =
      .ok (part, unfit)) (depth : Nat) (element : ι) :
    c.AsksAt q depth element ↔ (part.drop depth).Holds element := by
  constructor
  · rintro ⟨other, _, hother, hholds⟩
    cases h.symm.trans hother
    exact hholds
  · exact fun hholds => ⟨part, unfit, h, hholds⟩

/-! ## What joined comparisons share. -/

section Shared

variable {js ks : List (Comparison × List String)} {joint : Comparison × List String} {depth : Nat}

theorem allAsk_concat_of_lt (h : joint.2.length < depth) (element : ι) :
    c.AllAsk (js ++ [joint]) depth element ↔ c.AllAsk js depth element := by
  unfold AllAsk
  rw [List.forall_mem_append, List.forall_mem_singleton]
  exact and_iff_left fun heq => absurd heq (Nat.ne_of_lt h)

theorem allAsk_concat (h : joint.2.length = depth) (element : ι) :
    c.AllAsk (js ++ [joint]) depth element ↔
      c.AllAsk js depth element ∧ c.AsksAt joint.1 depth element := by
  unfold AllAsk
  rw [List.forall_mem_append, List.forall_mem_singleton]
  exact and_congr_right fun _ => ⟨fun hasks => hasks h, fun hasks _ => hasks⟩

/-- What comparisons share does not depend on their order. -/
theorem shares_congr (h : ∀ j, j ∈ js ↔ j ∈ ks) (paths : List String) (element : ι) :
    c.Shares js depth paths element ↔ c.Shares ks depth paths element := by
  induction paths generalizing depth element with
  | nil => simp only [Shares, AllAsk, h]
  | cons path paths ih => simp only [Shares, AllAsk, h, ih]

/-- Below the place where a comparison is joined, it asks nothing. -/
theorem shares_concat_of_lt (h : joint.2.length < depth) (paths : List String) (element : ι) :
    c.Shares (js ++ [joint]) depth paths element ↔ c.Shares js depth paths element := by
  induction paths generalizing depth element with
  | nil => exact allAsk_concat_of_lt h element
  | cons path paths ih => simp only [Shares, allAsk_concat_of_lt h, ih (Nat.lt_succ_of_lt h)]

/-- At the place where a comparison is joined, it is asked besides the others. -/
theorem shares_concat (h : joint.2.length = depth) (paths : List String) (element : ι) :
    c.Shares (js ++ [joint]) depth paths element ↔
      c.Shares js depth paths element ∧ c.AsksAt joint.1 depth element := by
  cases paths with
  | nil => exact allAsk_concat h element
  | cons path paths =>
    have hbelow : joint.2.length < depth + 1 := by omega
    simp only [Shares, allAsk_concat h, shares_concat_of_lt hbelow, and_right_comm]

/-- Down to the first place where a comparison is joined, only some element is asked for. -/
theorem shares_append {outer : List String} (h : ∀ j ∈ js, depth + outer.length ≤ j.2.length)
    (inner : List String) (item : ι) :
    c.Shares js depth (outer ++ inner) item ↔
      ∃ element, c.mapper.Leads outer item element ∧
        c.Shares js (depth + outer.length) inner element := by
  induction outer generalizing depth item with
  | nil => simp [Mapper.Leads]
  | cons path outer ih =>
    rw [List.length_cons] at h
    -- No comparison is joined before the outer paths end.
    have hnone : c.AllAsk js depth item := by
      intro j hj heq
      have := h j hj
      omega
    have hnext : ∀ j ∈ js, depth + 1 + outer.length ≤ j.2.length := by
      intro j hj
      have := h j hj
      omega
    have hdepth : depth + (path :: outer).length = depth + 1 + outer.length := by
      rw [List.length_cons]
      omega
    rw [Mapper.exists_leads_cons, List.cons_append, hdepth]
    simp only [Shares, ih hnext]
    exact and_iff_right hnone

end Shared

/-! ## Joining comparisons. -/

/-- Whether the part is a conjunction of the given comparisons, open on the beginning of the given
paths. -/
structure Joined (c : Compiler ι) (paths : List String) (part : Part ι (ι → Bool))
    (joints : List (Comparison × List String)) : Prop where
  begins : part.paths <+: paths
  within : ∀ joint ∈ joints, part.paths.length ≤ joint.2.length
  core : ∀ element, part.core.query element = true ↔
    c.Shares joints part.paths.length (paths.drop part.paths.length) element

namespace Joined

variable {paths : List String} {part joined : Part ι (ι → Bool)}
  {js : List (Comparison × List String)}

/-- Without its outermost open conditions, the conjunction asks what its comparisons share there. -/
theorem holds_drop_iff (h : c.Joined paths part js) (hm : c.mapper.IsConsistent)
    (hpart : part.IsFrom c.mapper) {n : Nat} (hn : n ≤ part.paths.length) (item : ι) :
    (part.drop n).Holds item ↔ c.Shares js n (paths.drop n) item := by
  obtain ⟨rest, hrest⟩ := h.begins
  -- The paths are those on which the part is still open, and the rest that its query goes along.
  have hlength : n + (part.paths.drop n).length = part.paths.length := by
    rw [List.length_drop]
    omega
  have hdrop : paths.drop n = part.paths.drop n ++ paths.drop part.paths.length := by
    rw [← hrest, List.drop_append_of_le_length hn, List.drop_left]
  rw [Part.holds_iff_leads hm (hpart.drop n), Part.paths_drop, Part.core_drop, hdrop,
    shares_append (by rw [hlength]; exact h.within), hlength]
  simp only [h.core]

/-- One more comparison is joined on the paths on which the conjunction stays open. -/
theorem combine (h : c.Joined paths part js) (hm : c.mapper.IsConsistent)
    (hpart : part.IsFrom c.mapper) {q : Comparison} {next : Part ι (ι → Bool)}
    {unfit : List UnfitValue}
    (hnext : c.comparison (predicateBackend ι) q.name q.index q.op q.raw q.ignoreCase =
      .ok (next, unfit))
    (hjoin : c.combine (predicateBackend ι) .and true part next = .ok joined) :
    c.Joined paths joined (js ++ [(q, joined.paths)]) := by
  have hshorter : joined.paths <+: part.paths := by
    rw [paths_of_combine hjoin, if_pos rfl]
    exact commonPrefix_prefix_left _ _
  refine ⟨hshorter.trans h.begins, ?_, fun element => ?_⟩
  · intro joint hjoint
    rcases List.mem_append.1 hjoint with hjoint | hjoint
    · exact Nat.le_trans hshorter.length_le (h.within joint hjoint)
    · cases List.mem_singleton.1 hjoint
      exact Nat.le_refl _
  -- Both sides are asked from the place where they are joined.
  · rw [core_of_combine hjoin, shares_concat rfl, asksAt_iff hnext,
      h.holds_drop_iff hm hpart hshorter.length_le]
    rfl

end Joined

/-- The parts for several accessors are closed before they are joined. -/
theorem paths_of_anyPart {first next part : Part ι (ι → Bool)} {rest : List (Part ι (ι → Bool))}
    (h : c.anyPart (predicateBackend ι) first (next :: rest) = .ok part) : part.paths = [] := by
  obtain ⟨built, -, h⟩ := bind_eq_ok.1 h
  obtain ⟨builts, -, h⟩ := bind_eq_ok.1 h
  cases h
  rfl

/-- Literals that fit are not reported. -/
theorem exists_accessorParts_of_fits {q : Comparison} {map : FieldMap ι}
    {accessors : List (Accessor ι)} (hfits : ∀ accessor ∈ accessors, c.Fits map accessor q) :
    ∃ ps, accessors.mapM (c.accessorPart (predicateBackend ι) map q.name q.index q.op q.raw
      q.ignoreCase) = .ok ps ∧ ps.filterMap (·.2) = [] := by
  induction accessors with
  | nil => exact ⟨[], rfl, rfl⟩
  | cons accessor accessors ih =>
    rw [List.forall_mem_cons] at hfits
    obtain ⟨part, hpart, -⟩ := exists_accessorPart_of_fits hfits.1
    obtain ⟨ps, hps, hnone⟩ := ih hfits.2
    exact ⟨(part, none) :: ps, mapM_eq_ok.2 (.cons hpart (mapM_eq_ok.1 hps)), by simp [hnone]⟩

/-- A comparison with literals that fit is open on the collections that it goes through. -/
theorem exists_comparison_of_converts {q : Comparison} (h : c.Converts q) :
    ∃ part, c.comparison (predicateBackend ι) q.name q.index q.op q.raw q.ignoreCase =
      .ok (part, []) ∧ part.paths = c.openPaths q := by
  obtain ⟨map, first, rest, hmap, haccessors, hfits⟩ := h
  rw [List.forall_mem_cons] at hfits
  obtain ⟨p, hp, hpaths, -⟩ := exists_accessorPart_of_fits hfits.1
  obtain ⟨ps, hps, hnone⟩ := exists_accessorParts_of_fits hfits.2
  obtain ⟨part, hjoin⟩ := c.exists_anyPart p (ps.map (·.1))
  have hcomparison := comparison_of_parts hmap haccessors hp hps hjoin
  rw [List.filterMap_cons_none rfl, hnone, List.take_nil] at hcomparison
  refine ⟨part, hcomparison, ?_⟩
  simp only [openPaths, hmap, haccessors]
  -- A single part stays open, several are closed.
  cases mapM_eq_ok.1 hps with
  | nil =>
    cases hjoin
    exact hpaths
  | cons _ _ => exact paths_of_anyPart hjoin

/-- The comparisons of a conjunction in parentheses, one after another. -/
theorem exists_yields_foldl (hm : c.mapper.IsConsistent) {paths : List String} {e : Expr}
    {part : Part ι (ι → Bool)} {js : List (Comparison × List String)}
    (h : c.Yields (predicateBackend ι) true e part []) (hjoined : c.Joined paths part js)
    {qs : List Comparison} (hconverts : ∀ q ∈ qs, c.Converts q) :
    ∃ all, c.Yields (predicateBackend ι) true (qs.foldl (fun e q => .logical e .and q.expr) e) all
        [] ∧
      ∀ item, all.Holds item ↔ c.Shares (js ++ c.joinedTo part.paths qs) 0 paths item := by
  induction qs generalizing e part js with
  | nil =>
    refine ⟨part, h, fun item => ?_⟩
    have hholds := hjoined.holds_drop_iff hm (isFrom_of_yields h) (Nat.zero_le _) item
    rwa [Part.drop_zero, List.drop_zero, ← List.append_nil js] at hholds
  | cons q qs ih =>
    rw [List.forall_mem_cons] at hconverts
    obtain ⟨next, hnext, hpaths⟩ := exists_comparison_of_converts hconverts.1
    obtain ⟨joined, hjoin, hopen, -⟩ := c.exists_combine_grouped .and part next
    have hyields : c.Yields (predicateBackend ι) true (.logical e .and q.expr) joined [] :=
      .logical h (.comparison hnext) hjoin
    obtain ⟨all, hall, hholds⟩ :=
      ih hyields (hjoined.combine hm (isFrom_of_yields h) hnext hjoin) hconverts.2
    refine ⟨all, hall, fun item => ?_⟩
    rw [hholds, List.append_assoc, List.singleton_append, hopen, hpaths]
    rfl

/-- A conjunction of comparisons in parentheses asks what the comparisons share along the paths on
which the first of them is joined. -/
theorem exists_yields_conjunction (hm : c.mapper.IsConsistent) {first : Comparison}
    {rest : List Comparison} (hconverts : ∀ q ∈ first :: rest, c.Converts q) :
    ∃ part, c.Yields (predicateBackend ι) true (first.conjunction rest) part [] ∧
      ∀ item, part.Holds item ↔
        c.Shares (c.joints first rest) 0 (c.firstJoint first rest) item := by
  rw [List.forall_mem_cons] at hconverts
  obtain ⟨part, hpart, hpaths⟩ := exists_comparison_of_converts hconverts.1
  have hfirst : c.Yields (predicateBackend ι) true first.expr part [] := .comparison hpart
  cases rest with
  | nil =>
    have hjoined : c.Joined (c.openPaths first) part [(first, c.openPaths first)] := by
      refine ⟨hpaths ▸ List.prefix_rfl, by simp [hpaths], fun element => ?_⟩
      have hclosed : part.drop (c.openPaths first).length = .closed part.core := by
        rw [← hpaths, part.drop_length]
      simp [Shares, AllAsk, hpaths, asksAt_iff hpart, hclosed, Part.Holds]
    exact exists_yields_foldl hm hfirst hjoined (by simp)
  | cons second rest =>
    rw [List.forall_mem_cons] at hconverts
    obtain ⟨next, hnext, hpaths'⟩ := exists_comparison_of_converts hconverts.2.1
    obtain ⟨joined, hjoin, hopen, hcore⟩ := c.exists_combine_grouped .and part next
    rw [hpaths, hpaths'] at hopen
    -- The first two comparisons are joined on the same paths.
    have hjoined : c.Joined joined.paths joined
        [(first, joined.paths), (second, joined.paths)] := by
      refine ⟨List.prefix_rfl, by simp, fun element => ?_⟩
      simp [Shares, AllAsk, asksAt_iff hpart, asksAt_iff hnext, hcore, Conjunction.Joins]
    obtain ⟨all, hall, hholds⟩ := exists_yields_foldl hm (.logical hfirst (.comparison hnext) hjoin)
      hjoined hconverts.2.2
    refine ⟨all, hall, fun item => ?_⟩
    rw [hholds, hopen]
    rfl

/-! ## Comparisons in another order. -/

theorem map_fst_joinedTo (c : Compiler ι) (opened : List String) (qs : List Comparison) :
    (c.joinedTo opened qs).map (·.1) = qs := by
  induction qs generalizing opened with
  | nil => rfl
  | cons q qs ih => rw [joinedTo, List.map_cons, ih]

theorem map_fst_joints (c : Compiler ι) (first : Comparison) (rest : List Comparison) :
    (c.joints first rest).map (·.1) = first :: rest := by
  rw [joints, List.map_cons, map_fst_joinedTo]

theorem prefix_of_mem_joinedTo {opened : List String} {qs : List Comparison}
    {joint : Comparison × List String} (h : joint ∈ c.joinedTo opened qs) : joint.2 <+: opened := by
  induction qs generalizing opened with
  | nil => cases h
  | cons q qs ih =>
    rcases List.mem_cons.1 h with rfl | h
    · exact commonPrefix_prefix_left _ _
    · exact (ih h).trans (commonPrefix_prefix_left _ _)

/-- No comparison is joined on more paths than the first one. -/
theorem prefix_of_mem_joints {first : Comparison} {rest : List Comparison}
    {joint : Comparison × List String} (h : joint ∈ c.joints first rest) :
    joint.2 <+: c.firstJoint first rest := by
  rcases List.mem_cons.1 h with rfl | h
  · exact List.prefix_rfl
  cases rest with
  | nil => cases h
  | cons second rest =>
    rcases List.mem_cons.1 h with rfl | h
    · exact List.prefix_rfl
    · exact prefix_of_mem_joinedTo h

theorem firstJoint_eq_of_perm {first first' : Comparison} {rest rest' : List Comparison}
    (h : (c.joints first rest).Perm (c.joints first' rest')) :
    c.firstJoint first rest = c.firstJoint first' rest' := by
  have hhere : c.firstJoint first rest <+: c.firstJoint first' rest' :=
    prefix_of_mem_joints (h.mem_iff.1 List.mem_cons_self)
  have hthere : c.firstJoint first' rest' <+: c.firstJoint first rest :=
    prefix_of_mem_joints (h.mem_iff.2 List.mem_cons_self)
  exact hhere.eq_of_length_le hthere.length_le

/-- A conjunction in parentheses accepts the items for which its comparisons share what they ask. -/
theorem exists_build_conjunction (hm : c.mapper.IsConsistent) {first : Comparison}
    {rest : List Comparison} (hconverts : ∀ q ∈ first :: rest, c.Converts q) :
    ∃ built, c.build (predicateBackend ι) ⟨.group (first.conjunction rest), []⟩ = .ok built ∧
      ∀ item, built.accepts item = true ↔
        c.Shares (c.joints first rest) 0 (c.firstJoint first rest) item := by
  obtain ⟨part, hyields, hshares⟩ := exists_yields_conjunction hm hconverts
  obtain ⟨built, hfinish, hholds⟩ := c.exists_finish part
  refine ⟨built, build_eq_ok_iff.2 ⟨rfl, part, [], .group hyields, hfinish, fun _ => rfl⟩, ?_⟩
  intro item
  rw [Built.accepts, hholds, hshares]

/-- Comparisons with literals that fit may be reordered in their parentheses, as long as each of
them is joined on the same paths as before: the filter accepts the same items. -/
theorem accepts_perm_iff (c : Compiler ι) (hm : c.mapper.IsConsistent) {first first' : Comparison}
    {rest rest' : List Comparison} (hconverts : ∀ q ∈ first :: rest, c.Converts q)
    (hperm : (c.joints first rest).Perm (c.joints first' rest')) :
    ∃ built built',
      c.build (predicateBackend ι) ⟨.group (first.conjunction rest), []⟩ = .ok built ∧
      c.build (predicateBackend ι) ⟨.group (first'.conjunction rest'), []⟩ = .ok built' ∧
      ∀ item, built.accepts item = built'.accepts item := by
  have hsame : (first :: rest).Perm (first' :: rest') := by
    have hfst := hperm.map (·.1)
    rwa [map_fst_joints, map_fst_joints] at hfst
  have hconverts' : ∀ q ∈ first' :: rest', c.Converts q := fun q hq =>
    hconverts q (hsame.mem_iff.2 hq)
  obtain ⟨built, hbuilt, hshares⟩ := exists_build_conjunction hm hconverts
  obtain ⟨built', hbuilt', hshares'⟩ := exists_build_conjunction hm hconverts'
  refine ⟨built, built', hbuilt, hbuilt', fun item => ?_⟩
  rw [Bool.eq_iff_iff, hshares, hshares', firstJoint_eq_of_perm hperm]
  exact shares_congr (fun _ => hperm.mem_iff) _ _

/-- Comparisons that go through the collections of what is open are joined there. -/
theorem joinedTo_eq_map {opened : List String} {qs : List Comparison}
    (h : ∀ q ∈ qs, opened <+: c.openPaths q) :
    c.joinedTo opened qs = qs.map fun q => (q, opened) := by
  induction qs with
  | nil => rfl
  | cons q qs ih =>
    rw [List.forall_mem_cons] at h
    rw [joinedTo, List.map_cons, commonPrefix_of_prefix h.1, ih h.2]

/-- If every two comparisons begin with the same collections and go apart behind them, all of them
are joined there, in whatever order. -/
theorem joints_eq_map {shared : List String} {first second : Comparison} {rest : List Comparison}
    (h : (first :: second :: rest).Pairwise fun p q =>
      commonPrefix (c.openPaths p) (c.openPaths q) = shared) :
    c.joints first (second :: rest) = (first :: second :: rest).map fun q => (q, shared) := by
  obtain ⟨hfirst, -⟩ := List.pairwise_cons.1 h
  rw [List.forall_mem_cons] at hfirst
  have hrest : ∀ q ∈ rest, shared <+: c.openPaths q := by
    intro q hq
    rw [← hfirst.2 q hq]
    exact commonPrefix_prefix_right _ _
  rw [joints, firstJoint, joinedTo, hfirst.1, joinedTo_eq_map hrest, List.map_cons, List.map_cons]

/-- Then any other order is as good. -/
theorem joints_perm_of_pairwise {shared : List String} {first second first' second' : Comparison}
    {rest rest' : List Comparison}
    (hperm : (first :: second :: rest).Perm (first' :: second' :: rest'))
    (h : (first :: second :: rest).Pairwise fun p q =>
      commonPrefix (c.openPaths p) (c.openPaths q) = shared) :
    (c.joints first (second :: rest)).Perm (c.joints first' (second' :: rest')) := by
  have h' := (hperm.pairwise_iff fun {p q} hpq => (commonPrefix_comm _ _).trans hpq).1 h
  rw [joints_eq_map h, joints_eq_map h']
  exact hperm.map _

theorem converts_of_follows {paths : List String} {q : Comparison} (h : c.Follows paths q.expr) :
    c.Converts q ∧ c.openPaths q = paths := by
  cases h with
  | @comparison _ _ _ _ _ map accessor h hfits hpaths =>
    have hfind : c.mapper.find? q.name = some map := h.mapped
    have honly : map.accessors q.index = .ok (accessor, []) := h.only
    refine ⟨⟨map, accessor, [], hfind, honly, by simpa using hfits⟩, ?_⟩
    simp only [openPaths, hfind, honly, hpaths]

/-- Whether there is a pet whose favourite begins like this. -/
def favouriteBegins (toy : String) : Comparison := ⟨"favourite", none, .startsWith, toy, false⟩

theorem converts_favouriteBegins (toy : String) :
    toyCompiler.Converts (favouriteBegins toy) ∧
      toyCompiler.openPaths (favouriteBegins toy) = ["pets"] := by
  have hfind : toyCompiler.mapper.find? "favourite" = some favouriteField := rfl
  have hcompares : toyCompiler.Compares (favouriteBegins toy) favouriteField favouriteAccessor :=
    ⟨hfind, rfl⟩
  exact converts_of_follows (.comparison hcompares (.inr (.inr rfl)) (by decide))

/-- All three comparisons are about one pet, whatever order they are in. -/
theorem accepts_perm_iff_toys :
    ∃ built built',
      toyCompiler.build (predicateBackend _)
        ⟨.group ((favouriteIs "bone").conjunction [toyIs "ball", favouriteBegins "b"]), []⟩ =
          .ok built ∧
      toyCompiler.build (predicateBackend _)
        ⟨.group ((favouriteBegins "b").conjunction [favouriteIs "bone", toyIs "ball"]), []⟩ =
          .ok built' ∧
      ∀ item, built.accepts item = built'.accepts item := by
  obtain ⟨hball, hballPaths⟩ := converts_of_follows (follows_toyIs "ball")
  obtain ⟨hbone, hbonePaths⟩ := converts_of_follows (follows_favouriteIs "bone")
  obtain ⟨hbegins, hbeginsPaths⟩ := converts_favouriteBegins "b"
  have hconverts : ∀ q ∈ [favouriteIs "bone", toyIs "ball", favouriteBegins "b"],
      toyCompiler.Converts q := by
    simp [hball, hbone, hbegins]
  have hshared : [favouriteIs "bone", toyIs "ball", favouriteBegins "b"].Pairwise fun p q =>
      commonPrefix (toyCompiler.openPaths p) (toyCompiler.openPaths q) = ["pets"] := by
    simp [hballPaths, hbonePaths, hbeginsPaths, commonPrefix]
  have hperm : [favouriteIs "bone", toyIs "ball", favouriteBegins "b"].Perm
      [favouriteBegins "b", favouriteIs "bone", toyIs "ball"] :=
    List.perm_append_singleton (favouriteBegins "b") [favouriteIs "bone", toyIs "ball"]
  exact accepts_perm_iff toyCompiler isConsistent_toyCompiler hconverts
    (joints_perm_of_pairwise hperm hshared)

/-- In general the order matters. A pet has the ball, the rope and the bone as its favourite; with
the toys side by side, one toy is asked to be both the ball and the rope. -/
theorem order_matters_toys :
    toyCompiler.mapper.IsConsistent ∧
    (∀ q ∈ [toyIs "ball", favouriteIs "bone", toyIs "rope"], toyCompiler.Converts q) ∧
    [toyIs "ball", favouriteIs "bone", toyIs "rope"].Perm
      [toyIs "ball", toyIs "rope", favouriteIs "bone"] ∧
    ∃ built built',
      toyCompiler.build (predicateBackend _)
        ⟨.group ((toyIs "ball").conjunction [favouriteIs "bone", toyIs "rope"]), []⟩ =
          .ok built ∧
      toyCompiler.build (predicateBackend _)
        ⟨.group ((toyIs "ball").conjunction [toyIs "rope", favouriteIs "bone"]), []⟩ =
          .ok built' ∧
      built.accepts [["bone", "ball", "rope"]] = true ∧
      built'.accepts [["bone", "ball", "rope"]] = false := by
  refine ⟨isConsistent_toyCompiler, ?_, .cons _ (.swap _ _ _), _, _, rfl, rfl, by decide, by decide⟩
  simp [(converts_of_follows (follows_toyIs _)).1, (converts_of_follows (follows_favouriteIs _)).1]

end Compiler

end FilterQuery
