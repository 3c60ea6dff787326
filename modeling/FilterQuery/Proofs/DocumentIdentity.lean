import FilterQuery.Proofs.DocumentTraces
import FilterQuery.Proofs.Expressible

/-!
# Filters with the same document

If a mapper keeps the paths of its accessors apart, the query for a positive test tells which value
it is about. Two filters with the same document mention the same queries in it, so a search that
reads these as the tests of one filter reads them as those of the other one as well. What documents
do not tell of tests is left to a hypothesis.

## Key results

- `Term.mentions_fold_iff`: a document mentions the queries for the positive tests of its term
- `accepts_eq_of_document_eq`: filters with the same document accept the same items
- `document_conflates`: filters with the same document that do not accept the same items
-/

namespace FilterQuery

variable {ι : Type}

/-! ## Queries in a document. -/

namespace Document

/-- Whether the query is one of those that the document is put together from. -/
def Mentions (query : Json) : Json → Prop
  | .object [("match_all", _)] => False
  | .object [("match_none", _)] => False
  | .object [("bool", .object [(_, .array queries)])] =>
    ∃ part, ∃ _ : part ∈ queries, Mentions query part
  | .object [("nested", .object [("path", .string _), ("query", inner)])] => Mentions query inner
  | other => query = other

variable {query : Json}

theorem mentions_clause {clause : String} {queries : List Json} :
    Mentions query (single "bool" (single clause (.array queries))) ↔
      ∃ part ∈ queries, Mentions query part := by
  rw [single, single, Mentions]
  simp only [exists_prop]

theorem mentions_mustNot {inner : Json} : Mentions query (mustNot inner) ↔ Mentions query inner := by
  rw [mustNot, mentions_clause]
  simp

theorem mentions_nested {path : String} {inner : Json} :
    Mentions query (single "nested" (.object [("path", .string path), ("query", inner)])) ↔
      Mentions query inner := by
  rw [single, Mentions]

/-- A query of another kind mentions nothing but itself. -/
theorem mentions_single {kind : String} {value : Json}
    (h : kind ∉ ["match_all", "match_none", "bool", "nested"]) :
    Mentions query (single kind value) ↔ query = single kind value := by
  simp only [List.mem_cons, List.not_mem_nil, or_false, not_or] at h
  rw [single, Mentions]
  -- What is left is that none of the other patterns matches.
  all_goals simp [h]

theorem mentions_iff_exists_clauseItems (clause : String) (document : Json) :
    Mentions query document ↔
      ∃ part ∈ (clauseItems? clause document).getD [document], Mentions query part := by
  cases hitems : clauseItems? clause document with
  | none => simp
  | some items =>
    rw [eq_of_clauseItems? hitems, mentions_clause]
    rfl

/-- Whatever clauses are merged, two joined documents mention what either of them does. -/
theorem mentions_joinClause {clause : String} {left right : Json} :
    Mentions query (joinClause clause left right) ↔
      Mentions query left ∨ Mentions query right := by
  rw [joinClause, mentions_clause, mentions_iff_exists_clauseItems clause left,
    mentions_iff_exists_clauseItems clause right]
  simp only [List.mem_append, or_and_right, exists_or]

/-- The query for a test mentions the one for its positive form. -/
theorem mentions_leaf {target : Target ι} {test : Test} (hbuiltin : test.isBuiltin = true)
    {document : Json} (h : leaf target test = .ok document) :
    Mentions query document ↔ leaf target test.positive = .ok query := by
  rw [leaf_eq_positive] at h
  cases hpositive : leaf target test.positive with
  | error e => simp [hpositive, Except.map] at h
  | ok positive =>
    rw [hpositive] at h
    cases h
    obtain ⟨kind, value, hkind, rfl⟩ := exists_single_of_leaf_positive hbuiltin hpositive
    have hsimple : (Except.ok (single kind value) : Except FilterError Json) = .ok query ↔
        Mentions query (single kind value) := by
      rw [mentions_single hkind, Except.ok.injEq, eq_comm]
    rw [hsimple]
    cases test.isNegated with
    | true => simp [mentions_mustNot]
    | false => simp

end Document

/-- A document mentions exactly the queries for the positive tests of its term. -/
theorem Term.mentions_fold_iff {term : Term ι}
    (hbuiltin : ∀ leaf ∈ term.leaves, leaf.test.isBuiltin = true) {document query : Json}
    (h : term.fold (documentBackend ι) = .ok document) :
    Document.Mentions query document ↔
      ∃ leaf ∈ term.leaves, Document.leaf leaf.target leaf.test.positive = .ok query := by
  induction term generalizing document with
  | always =>
    cases h
    simp [documentBackend, Document.single, Document.Mentions, leaves]
  | never =>
    cases h
    simp [documentBackend, Document.single, Document.Mentions, leaves]
  | and left right ihl ihr =>
    simp only [leaves, List.forall_mem_append] at hbuiltin
    obtain ⟨l, r, hl, hr, rfl⟩ := fold_and_eq_ok_iff.1 h
    simp only [documentBackend, Document.mentions_joinClause, ihl hbuiltin.1 hl, ihr hbuiltin.2 hr,
      leaves, List.mem_append, or_and_right, exists_or]
  | or left right ihl ihr =>
    simp only [leaves, List.forall_mem_append] at hbuiltin
    obtain ⟨l, r, hl, hr, rfl⟩ := fold_or_eq_ok_iff.1 h
    simp only [documentBackend, Document.mentions_joinClause, ihl hbuiltin.1 hl, ihr hbuiltin.2 hr,
      leaves, List.mem_append, or_and_right, exists_or]
  | leaf target test =>
    have htest := hbuiltin ⟨[], target, test⟩ (by simp [leaves])
    rw [Document.mentions_leaf htest h]
    simp [leaves]
  | any collection nullGuard inner ih =>
    simp only [leaves, List.forall_mem_map] at hbuiltin
    obtain ⟨d, hd, h⟩ := bind_eq_ok.1 h
    cases h
    rw [Document.mentions_nested, ih hbuiltin hd]
    -- The leaves are the same, at elements of one more collection.
    simp only [leaves, List.mem_map, exists_exists_and_eq_and, Leaf.under]

/-! ## Searching for two filters at once. -/

/-- Whether the positive test of the leaf has the query. -/
def Leaf.Asks (leaf : Leaf ι) (query : Json) : Prop :=
  Document.leaf leaf.target leaf.test.positive = .ok query

/-- Whether the element satisfies the positive test of the leaf. -/
def Leaf.Accepts (leaf : Leaf ι) (element : ι) : Prop :=
  leaf.test.positive.accepts (leaf.target.read element) = true

/-- The search that finds an element by a query if a leaf with the query accepts it. -/
def Leaf.search (leaves : List (Leaf ι)) (query : Json) (element : ι) : Prop :=
  ∃ leaf ∈ leaves, leaf.Asks query ∧ leaf.Accepts element

section TwoFilters

variable {leaves leaves' : List (Leaf ι)}
  (hquery : ∀ query, (∃ leaf ∈ leaves, leaf.Asks query) ↔ ∃ leaf ∈ leaves', leaf.Asks query)
  (haccepts : ∀ leaf ∈ leaves, ∀ other ∈ leaves', ∀ query, leaf.Asks query → other.Asks query →
    ∀ element, leaf.Accepts element ↔ other.Accepts element)

include hquery haccepts

/-- If the leaves of two filters have the same queries, and leaves with the same query accept the
same elements, the search for the leaves of the first filter reads them as they are meant. -/
theorem Leaf.isReadBy_search {leaf : Leaf ι} (hleaf : leaf ∈ leaves) (m : Mapper ι) (item : ι) :
    leaf.IsReadBy m (search leaves) item := by
  intro element _ query hasks
  constructor
  · rintro ⟨found, hfound, hfoundAsks, hfoundAccepts⟩
    -- Two leaves of the first filter are compared by way of one of the second.
    obtain ⟨other, hother, hotherAsks⟩ := (hquery query).1 ⟨leaf, hleaf, hasks⟩
    have hsecond := haccepts found hfound other hother query hfoundAsks hotherAsks element
    have hfirst := haccepts leaf hleaf other hother query hasks hotherAsks element
    exact hfirst.2 (hsecond.1 hfoundAccepts)
  · intro h
    exact ⟨leaf, hleaf, hasks, h⟩

/-- The search reads the leaves of the second filter as they are meant, too. -/
theorem Leaf.isReadBy_search_other {other : Leaf ι} (hother : other ∈ leaves') (m : Mapper ι)
    (item : ι) : other.IsReadBy m (search leaves) item := by
  intro element _ query hasks
  constructor
  · rintro ⟨found, hfound, hfoundAsks, hfoundAccepts⟩
    exact (haccepts found hfound other hother query hfoundAsks hasks element).1 hfoundAccepts
  · intro h
    obtain ⟨leaf, hleaf, hleafAsks⟩ := (hquery query).2 ⟨other, hother, hasks⟩
    have hsame := haccepts leaf hleaf other hother query hleafAsks hasks element
    exact ⟨leaf, hleaf, hleafAsks, hsame.2 h⟩

end TwoFilters

/-! ## Filters with the same document. -/

/-- Whether different accessors of the mapper have different paths in documents, whatever the
spelling of the names of their fields. -/
def Mapper.SeparatesPaths (m : Mapper ι) : Prop :=
  ∀ name map accessor name' map' accessor', m.find? name = some map → map.Offers none accessor →
    m.find? name' = some map' → map'.Offers none accessor' →
      accessor.path.getD name = accessor'.path.getD name' → accessor = accessor'

namespace Compiler

variable {c : Compiler ι}

theorem index_eq_none_of_asks {leaf : Leaf ι} {query : Json} (h : leaf.Asks query) :
    leaf.target.index = none :=
  (Document.exists_leaf_iff.1 ⟨query, h⟩).1

/-- Targets with the same path are read in the same way. -/
theorem read_eq_of_path (hpaths : c.mapper.SeparatesPaths) {q q' : Comparison}
    {target target' : Target ι} {test test' : Test} (h : c.Requires q target test)
    (h' : c.Requires q' target' test') (hindex : target.index = none)
    (hindex' : target'.index = none) (hpath : target.path = target'.path) :
    target.read = target'.read := by
  obtain ⟨map, accessor, -, hmap, hoffers, -, -, rfl⟩ := h
  obtain ⟨map', accessor', -, hmap', hoffers', -, -, rfl⟩ := h'
  simp only [Comparison.target] at hindex hindex' hpath ⊢
  rw [hindex] at hoffers
  rw [hindex'] at hoffers'
  rw [hpaths _ _ _ _ _ _ hmap hoffers hmap' hoffers' hpath]

/-- The document and the predicate of a filter are made of one term, with leaves that are tests of
built-in operators. -/
theorem exists_term_of_builds {tree : FilterTree}
    (hbuiltin : ∀ op ∈ tree.root.operators, op ∈ Operator.builtin) {document : Built Json}
    (hdocument : c.build (documentBackend ι) tree = .ok document) {built : Built (ι → Bool)}
    (hbuilt : c.build (predicateBackend ι) tree = .ok built) :
    ∃ term : Term ι, c.leaves tree = term.leaves ∧ (∀ s ∈ term.collections, c.mapper.Uses s) ∧
      (∀ leaf ∈ term.leaves, leaf.test.isBuiltin = true ∧
        ∃ q ∈ tree.root.comparisons, c.Requires q leaf.target leaf.test) ∧
      term.fold (documentBackend ι) = .ok document.query ∧
      term.fold (predicateBackend ι) = .ok built.query := by
  obtain ⟨term, hterm, hdocument⟩ := (build_eq_ok_iff_fold fun _ _ _ => rfl).1 hdocument
  obtain ⟨term', hterm', hbuilt⟩ := (build_eq_ok_iff_fold fun _ _ _ => rfl).1 hbuilt
  cases hterm.symm.trans hterm'
  obtain ⟨huses, hrequires⟩ := requires_of_build hterm
  refine ⟨term.query, by simp only [leaves, hterm], huses, fun leaf hleaf => ?_,
    (Built.fold?_eq_some_iff.1 hdocument).1, (Built.fold?_eq_some_iff.1 hbuilt).1⟩
  obtain ⟨q, hq, hrequires⟩ := hrequires leaf hleaf
  have htest := isBuiltin_of_asks (hbuiltin q.op (Expr.op_mem_operators hq)) hrequires.asks
  exact ⟨htest, q, hq, hrequires⟩

/-- Two filters with the same document accept the same items, if the mapper keeps paths apart and,
where the filters ask for the same path, their tests are discernible. -/
theorem accepts_eq_of_document_eq (c : Compiler ι) (hm : c.mapper.IsConsistent)
    (hpaths : c.mapper.SeparatesPaths) {tree tree' : FilterTree}
    (hbuiltin : ∀ op ∈ tree.root.operators, op ∈ Operator.builtin)
    (hbuiltin' : ∀ op ∈ tree'.root.operators, op ∈ Operator.builtin) {document document' : Built Json}
    (hdocument : c.build (documentBackend ι) tree = .ok document)
    (hdocument' : c.build (documentBackend ι) tree' = .ok document') {built built' : Built (ι → Bool)}
    (hbuilt : c.build (predicateBackend ι) tree = .ok built)
    (hbuilt' : c.build (predicateBackend ι) tree' = .ok built')
    (hdiscernible : ∀ leaf ∈ c.leaves tree, ∀ other ∈ c.leaves tree',
      leaf.target.path = other.target.path → leaf.test.Discernible other.test)
    (hsame : document.query = document'.query) (item : ι) :
    built.accepts item = built'.accepts item := by
  obtain ⟨term, hleaves, huses, hrequires, hfold, hpredicate⟩ :=
    exists_term_of_builds hbuiltin hdocument hbuilt
  obtain ⟨term', hleaves', huses', hrequires', hfold', hpredicate'⟩ :=
    exists_term_of_builds hbuiltin' hdocument' hbuilt'
  rw [hleaves, hleaves'] at hdiscernible
  have htests := fun leaf hleaf => (hrequires leaf hleaf).1
  have htests' := fun leaf hleaf => (hrequires' leaf hleaf).1
  -- Both documents mention the same queries, and those for the same path are of one accessor.
  have hquery : ∀ query, (∃ leaf ∈ term.leaves, leaf.Asks query) ↔
      ∃ leaf ∈ term'.leaves, leaf.Asks query := by
    intro query
    have hmentions : Document.Mentions query document.query ↔
        ∃ leaf ∈ term.leaves, leaf.Asks query := Term.mentions_fold_iff htests hfold
    rw [← hmentions, hsame]
    exact Term.mentions_fold_iff htests' hfold'
  have haccepts : ∀ leaf ∈ term.leaves, ∀ other ∈ term'.leaves, ∀ query, leaf.Asks query →
      other.Asks query → ∀ element, leaf.Accepts element ↔ other.Accepts element := by
    intro leaf hleaf other hother query hasks hasks' element
    obtain ⟨htest, q, -, hq⟩ := hrequires leaf hleaf
    obtain ⟨htest', q', -, hq'⟩ := hrequires' other hother
    obtain ⟨hpath, hvalues⟩ := Document.accepts_positive_congr htest htest' hasks hasks'
      (hdiscernible leaf hleaf other hother)
    have hread := read_eq_of_path hpaths hq hq' (index_eq_none_of_asks hasks)
      (index_eq_none_of_asks hasks') hpath
    rw [Leaf.Accepts, Leaf.Accepts, hread, hvalues]
  let R := Leaf.search term.leaves
  have hholds : Document.Holds c.mapper R document.query item ↔ built.accepts item = true :=
    Term.holds_fold_iff hm huses htests hfold hpredicate
      fun leaf hleaf => Leaf.isReadBy_search hquery haccepts hleaf c.mapper item
  have hholds' : Document.Holds c.mapper R document'.query item ↔ built'.accepts item = true :=
    Term.holds_fold_iff hm huses' htests' hfold' hpredicate'
      fun leaf hleaf => Leaf.isReadBy_search_other hquery haccepts hleaf c.mapper item
  rw [Bool.eq_iff_iff, ← hholds, ← hholds', hsame]

/-- A mapper with a single accessor keeps its path apart. -/
theorem separatesPaths_of_single {m : Mapper ι} {field : String} {only : Accessor ι}
    {convertor : Option (String → Option Value)}
    (h : m.maps = [{ name := field, mapping := .single only, convertor }]) :
    m.SeparatesPaths := by
  have honly : ∀ {name : String} {map : FieldMap ι} {accessor : Accessor ι},
      m.find? name = some map → map.Offers none accessor → accessor = only := by
    intro name map accessor hmap hoffers
    have hmem := List.mem_of_find?_eq_some hmap
    rw [h, List.mem_singleton] at hmem
    subst hmem
    exact hoffers
  intro name map accessor name' map' accessor' hmap hoffers hmap' hoffers' _
  rw [honly hmap hoffers, honly hmap' hoffers']

/-- The test whether a label has the text. -/
def labelTest (text : String) : Test := .compare .equal (.string text) false

theorem discernible_labelTest (text other : String) :
    (labelTest text).Discernible (labelTest other) := by
  intro _
  exact ⟨fun hjson => .inl (congrArg Value.string (Json.string.inj hjson)), nofun⟩

/-- Three labels, the first two of which are joined first. -/
def labelsLeft : FilterTree :=
  ⟨.logical (.logical (labelIs "a") .and (labelIs "b")) .and (labelIs "c"), []⟩

/-- Three labels, the last two of which are joined first. -/
def labelsRight : FilterTree :=
  ⟨.logical (labelIs "a") .and (.logical (labelIs "b") .and (labelIs "c")), []⟩

theorem accepts_eq_of_document_eq_labels :
    ∃ document built built',
      labelCompiler.build (documentBackend _) labelsLeft = .ok document ∧
      labelCompiler.build (documentBackend _) labelsRight = .ok document ∧
      labelCompiler.build (predicateBackend _) labelsLeft = .ok built ∧
      labelCompiler.build (predicateBackend _) labelsRight = .ok built' ∧
      built.accepts ["a", "b", "c"] = true ∧ built'.accepts ["a", "b", "c"] = true := by
  obtain ⟨document, hdocument, hdocument'⟩ : ∃ document,
      labelCompiler.build (documentBackend _) labelsLeft = .ok document ∧
        labelCompiler.build (documentBackend _) labelsRight = .ok document := ⟨_, rfl, rfl⟩
  obtain ⟨built, hbuilt, haccepts⟩ : ∃ built,
      labelCompiler.build (predicateBackend _) labelsLeft = .ok built ∧
        built.accepts ["a", "b", "c"] = true := ⟨_, rfl, by decide⟩
  obtain ⟨built', hbuilt'⟩ : ∃ built',
      labelCompiler.build (predicateBackend _) labelsRight = .ok built' := ⟨_, rfl⟩
  -- All tests of either filter are for the text of a label.
  have hleft : (labelCompiler.leaves labelsLeft).map (·.test) = ["a", "b", "c"].map labelTest := rfl
  have hright : (labelCompiler.leaves labelsRight).map (·.test) = ["a", "b", "c"].map labelTest :=
    rfl
  have hdiscernible : ∀ leaf ∈ labelCompiler.leaves labelsLeft,
      ∀ other ∈ labelCompiler.leaves labelsRight,
        leaf.target.path = other.target.path → leaf.test.Discernible other.test := by
    intro leaf hleaf other hother _
    have htest := List.mem_map_of_mem (f := (·.test)) hleaf
    have htest' := List.mem_map_of_mem (f := (·.test)) hother
    rw [hleft] at htest
    rw [hright] at htest'
    obtain ⟨text, -, htext⟩ := List.mem_map.1 htest
    obtain ⟨text', -, htext'⟩ := List.mem_map.1 htest'
    rw [← htext, ← htext']
    exact discernible_labelTest text text'
  have hsame := accepts_eq_of_document_eq labelCompiler isConsistent_labelCompiler
    (separatesPaths_of_single rfl) (by decide) (by decide) hdocument hdocument' hbuilt hbuilt'
    hdiscernible rfl ["a", "b", "c"]
  exact ⟨document, built, built', hdocument, hdocument', hbuilt, hbuilt', haccepts,
    hsame ▸ haccepts⟩

/-- Whether two filters on built-in operators have the same document and do not agree on the item,
although the mapper keeps paths apart. -/
structure Conflates (c : Compiler ι) (tree tree' : FilterTree) (item : ι) : Prop where
  consistent : c.mapper.IsConsistent
  separates : c.mapper.SeparatesPaths
  builtin : ∀ op ∈ tree.root.operators ++ tree'.root.operators, op ∈ Operator.builtin
  builds : ∃ document built built',
    c.build (documentBackend ι) tree = .ok document ∧
    c.build (documentBackend ι) tree' = .ok document ∧
    c.build (predicateBackend ι) tree = .ok built ∧
    c.build (predicateBackend ι) tree' = .ok built' ∧ built.accepts item ≠ built'.accepts item

/-- Filters on values. -/
def valueCompiler (kind : FieldKind) (convertor : Option (String → Option Value)) :
    Compiler Value where
  mapper := {
    maps := [{ name := "value", mapping := .single (.computed kind false id), convertor }]
    operators := .empty }

/-- Whether the value compares with what the text stands for. -/
def valueIs (op : Operator) (raw : String) (ignoreCase : Bool) : FilterTree :=
  ⟨.comparison (.field "value" none) op (.value raw ignoreCase), []⟩

theorem isConsistent_valueCompiler (kind : FieldKind)
    (convertor : Option (String → Option Value)) :
    (valueCompiler kind convertor).mapper.IsConsistent := by
  -- There are no collections.
  rintro s t ⟨map, hmap, index, accessor, hoffers, hs⟩
  simp only [valueCompiler, List.mem_singleton] at hmap
  subst hmap
  cases index with
  | none =>
    cases hoffers
    cases hs
  | some key => cases hoffers

/-- Reads the text of the identifier zero, as a text or as an identifier. -/
def readZero? : String → Option Value
  | "text" => some (.string (String.ofList Uuid.zero.print))
  | "identifier" => some (.uuid .zero)
  | _ => none

/-- A document writes all numbers that are not finite alike, a range has no place for a mark that
case is to be ignored, and values of several kinds can be written alike. -/
theorem document_conflates :
    (valueCompiler .number none).Conflates (valueIs .less "inf" false) (valueIs .less "nan" false)
      (.number (.signed 1)) ∧
    (valueCompiler .string none).Conflates (valueIs .less "B" false) (valueIs .less "B" true)
      (.string "a") ∧
    (valueCompiler .uuid (some readZero?)).Conflates (valueIs .equal "text" false)
      (valueIs .equal "identifier" false) (.uuid .zero) := by
  refine ⟨⟨isConsistent_valueCompiler _ _, separatesPaths_of_single rfl, by decide, ?_⟩,
    ⟨isConsistent_valueCompiler _ _, separatesPaths_of_single rfl, by decide, ?_⟩,
    ⟨isConsistent_valueCompiler _ _, separatesPaths_of_single rfl, by decide, ?_⟩⟩
  · exact ⟨_, _, _, rfl, rfl, rfl, rfl, by decide +kernel⟩
  · exact ⟨_, _, _, rfl, rfl, rfl, rfl, by decide +kernel⟩
  · exact ⟨_, _, _, rfl, rfl, rfl, rfl, by decide +kernel⟩

end Compiler

end FilterQuery
