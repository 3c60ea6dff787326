import FilterQuery.Proofs.Elements
import FilterQuery.Proofs.Folding

/-!
# What query documents say

`Document.Holds m R query item` is what a search engine makes of a query document: it knows the
clauses that put queries together, looks into the collections of the mapper `m`, and reads whatever
else it finds by `R`. If `R` reads the positive tests of a filter as they are meant, the document
holds of an item exactly if the predicate of the filter accepts it.

## Key results

- `holds_joinClause_must`, `holds_joinClause_should`: flattened clauses say what both queries say
- `leaf_eq_positive`: a test becomes the query for its positive form, or the negation of that query
- `Term.holds_fold_iff`: folding a term into a document or into a predicate comes to the same
- `document_agrees`: the document of a filter says what its predicate says
-/

namespace FilterQuery

variable {ι : Type}

/-! ## Search. -/

namespace Document

/-- Whether the item is found by the query. Queries that are not put together from others are read
by `R`. -/
def Holds (m : Mapper ι) (R : Json → ι → Prop) : Json → ι → Prop
  | .object [("match_all", _)], _ => True
  | .object [("match_none", _)], _ => False
  | .object [("bool", .object [("must", .array queries)])], item =>
    ∀ query ∈ queries, Holds m R query item
  | .object [("bool", .object [("should", .array queries)])], item =>
    -- Membership is bound and not just conjoined, since the recursion rests on it.
    ∃ query, ∃ _ : query ∈ queries, Holds m R query item
  | .object [("bool", .object [("must_not", .array queries)])], item =>
    ∀ query ∈ queries, ¬Holds m R query item
  | .object [("nested", .object [("path", .string path), ("query", query)])], item =>
    ∃ element, m.Contains path item element ∧ Holds m R query element
  | query, item => R query item

variable {m : Mapper ι} {R : Json → ι → Prop} {item : ι}

theorem holds_must {queries : List Json} :
    Holds m R (single "bool" (single "must" (.array queries))) item ↔
      ∀ query ∈ queries, Holds m R query item := by
  rw [single, single, Holds]

theorem holds_should {queries : List Json} :
    Holds m R (single "bool" (single "should" (.array queries))) item ↔
      ∃ query ∈ queries, Holds m R query item := by
  rw [single, single, Holds]
  simp only [exists_prop]

theorem holds_mustNot {query : Json} :
    Holds m R (mustNot query) item ↔ ¬Holds m R query item := by
  rw [mustNot, single, single, Holds]
  simp

theorem holds_nested {path : String} {query : Json} :
    Holds m R (single "nested" (.object [("path", .string path), ("query", query)])) item ↔
      ∃ element, m.Contains path item element ∧ Holds m R query element := by
  rw [single, Holds]

/-- A query of another kind is read as it is. -/
theorem holds_single {kind : String} {value : Json}
    (h : kind ∉ ["match_all", "match_none", "bool", "nested"]) :
    Holds m R (single kind value) item ↔ R (single kind value) item := by
  simp only [List.mem_cons, List.not_mem_nil, or_false, not_or] at h
  rw [single, Holds]
  -- What is left is that none of the other patterns matches.
  all_goals simp [h]

/-! ## Clauses. -/

theorem eq_of_clauseItems? {clause : String} {query : Json} {items : List Json}
    (h : clauseItems? clause query = some items) :
    query = single "bool" (single clause (.array items)) := by
  unfold clauseItems? at h
  split at h
  · split at h
    · rename_i hname
      cases h
      rw [eq_of_beq hname]
      rfl
    · cases h
  · cases h

/-- A query says that all its queries of the clause hold, if it is nothing but such a clause, and
otherwise what it says itself. -/
theorem holds_iff_forall_clauseItems (query : Json) :
    Holds m R query item ↔
      ∀ part ∈ (clauseItems? "must" query).getD [query], Holds m R part item := by
  cases hitems : clauseItems? "must" query with
  | none => simp
  | some items =>
    rw [eq_of_clauseItems? hitems, holds_must]
    rfl

theorem holds_iff_exists_clauseItems (query : Json) :
    Holds m R query item ↔
      ∃ part ∈ (clauseItems? "should" query).getD [query], Holds m R part item := by
  cases hitems : clauseItems? "should" query with
  | none => simp
  | some items =>
    rw [eq_of_clauseItems? hitems, holds_should]
    rfl

theorem holds_joinClause_must (left right : Json) :
    Holds m R (joinClause "must" left right) item ↔
      Holds m R left item ∧ Holds m R right item := by
  rw [joinClause, holds_must, holds_iff_forall_clauseItems left,
    holds_iff_forall_clauseItems right]
  exact List.forall_mem_append

theorem holds_joinClause_should (left right : Json) :
    Holds m R (joinClause "should" left right) item ↔
      Holds m R left item ∨ Holds m R right item := by
  rw [joinClause, holds_should, holds_iff_exists_clauseItems left,
    holds_iff_exists_clauseItems right]
  simp only [List.mem_append, or_and_right, exists_or]

end Document

/-! ## Positive tests. -/

namespace Test

/-- Whether the test is one of a built-in operator. -/
def isBuiltin : Test → Bool
  | compare op _ _ => decide (op ∈ Operator.builtin)
  | null _ => true
  | custom _ _ => false

/-- Whether the test is the negation of another one. -/
def isNegated : Test → Bool
  | compare op _ _ => op.isNegated
  | null negated => !negated
  | custom _ _ => false

/-- The test that a negated one negates, or else the test itself. A test for missing values negates
the one for values. -/
def positive : Test → Test
  | compare op literal ignoreCase => compare op.positive literal ignoreCase
  | null _ => null true
  | custom op literal => custom op literal

theorem accepts_iff_positive (test : Test) (value : Value) :
    test.accepts value = true ↔ if test.isNegated then ¬test.positive.accepts value = true
      else test.positive.accepts value = true := by
  cases test with
  | compare op literal ignoreCase =>
    cases hnegated : op.isNegated with
    | true => simp [isNegated, positive, hnegated, accepts_compare_negated hnegated]
    | false => simp [isNegated, positive, hnegated, Operator.positive_of_not_isNegated hnegated]
  | null negated => cases negated <;> simp [isNegated, positive, accepts]
  | custom op literal => rfl

end Test

namespace Document

variable {m : Mapper ι} {R : Json → ι → Prop} {item : ι}

/-- The query for a test is the one for its positive form, or the negation of that one. -/
theorem leaf_eq_positive (target : Target ι) (test : Test) :
    leaf target test =
      (leaf target test.positive).map fun query =>
        if test.isNegated then mustNot query else query := by
  unfold leaf
  cases target.index with
  | some index => rfl
  | none =>
    cases test with
    | compare op literal ignoreCase => cases op <;> rfl
    | null negated => cases negated <;> rfl
    | custom op literal =>
      cases hdocument : op.document <;>
        simp [Test.positive, Test.isNegated, hdocument, Except.map]

/-- The query for a positive test of a built-in operator compares the field, or asks whether it is
there. -/
theorem eq_positive_or_exists {target : Target ι} {test : Test} (hbuiltin : test.isBuiltin = true)
    {query : Json} (h : leaf target test.positive = .ok query) :
    (∃ op literal ignoreCase, query = positive target.path op literal ignoreCase) ∨
      query = exists? target.path := by
  unfold leaf at h
  cases hindex : target.index with
  | some index => simp [hindex] at h
  | none =>
    cases test with
    | compare op literal ignoreCase =>
      simp only [hindex, Test.positive, Operator.isNegated_positive] at h
      cases h
      exact .inl ⟨_, _, _, rfl⟩
    | null negated =>
      simp only [hindex, Test.positive] at h
      cases h
      exact .inr rfl
    | custom op literal => cases hbuiltin

/-- The queries for positive tests of built-in operators are none that are put together from
others. -/
theorem exists_single_of_leaf_positive {target : Target ι} {test : Test}
    (hbuiltin : test.isBuiltin = true) {query : Json} (h : leaf target test.positive = .ok query) :
    ∃ kind value, kind ∉ ["match_all", "match_none", "bool", "nested"] ∧
      query = single kind value := by
  obtain ⟨op, literal, ignoreCase, rfl⟩ | rfl := eq_positive_or_exists hbuiltin h
  · cases op <;> exact ⟨_, _, by decide, rfl⟩
  · exact ⟨_, _, by decide, rfl⟩

theorem holds_leaf_positive {target : Target ι} {test : Test} (hbuiltin : test.isBuiltin = true)
    {query : Json} (h : leaf target test.positive = .ok query) :
    Holds m R query item ↔ R query item := by
  obtain ⟨kind, value, hkind, rfl⟩ := exists_single_of_leaf_positive hbuiltin h
  exact holds_single hkind

end Document

/-! ## Leaves of a term. -/

/-- A leaf of a query: the test of a target at the elements that collections of the given paths,
outermost first, lead to. -/
structure Leaf (ι : Type) where
  paths : List String
  target : Target ι
  test : Test

/-- The leaf at the elements of one more collection. -/
def Leaf.under (path : String) (leaf : Leaf ι) : Leaf ι := { leaf with paths := path :: leaf.paths }

namespace Term

/-- The leaves of a term, from left to right. -/
def leaves : Term ι → List (Leaf ι)
  | always | never => []
  | and left right | or left right => left.leaves ++ right.leaves
  | leaf target test => [⟨[], target, test⟩]
  | any collection _ inner => inner.leaves.map (.under collection.path)

/-- The collections that a term looks into. -/
def collections : Term ι → List (Collection ι)
  | and left right | or left right => left.collections ++ right.collections
  | any collection _ inner => collection :: inner.collections
  | _ => []

end Term

/-- Whether `R` reads the positive test of the leaf as it is meant, at all elements of the item that
the collections of the leaf lead to. -/
def Leaf.IsReadBy (leaf : Leaf ι) (m : Mapper ι) (R : Json → ι → Prop) (item : ι) : Prop :=
  ∀ element, m.Leads leaf.paths item element →
    ∀ query, Document.leaf leaf.target leaf.test.positive = .ok query →
      (R query element ↔ leaf.test.positive.accepts (leaf.target.read element) = true)

variable {m : Mapper ι} {R : Json → ι → Prop}

/-- A leaf that is read as it is meant becomes a query that says what its test says. -/
theorem Document.holds_leaf {target : Target ι} {test : Test} (hbuiltin : test.isBuiltin = true)
    {item : ι} (hR : (Leaf.mk [] target test).IsReadBy m R item) {query : Json}
    (h : leaf target test = .ok query) :
    Holds m R query item ↔ test.accepts (target.read item) = true := by
  rw [leaf_eq_positive] at h
  cases hpositive : leaf target test.positive with
  | error e => simp [hpositive, Except.map] at h
  | ok positive =>
    rw [hpositive] at h
    cases h
    have hread : Holds m R positive item ↔ test.positive.accepts (target.read item) = true := by
      rw [holds_leaf_positive hbuiltin hpositive]
      exact hR item rfl positive hpositive
    rw [Test.accepts_iff_positive]
    cases test.isNegated with
    | true => simp [holds_mustNot, hread]
    | false => simpa using hread

/-- The document and the predicate that are made of one term say the same of an item, if the leaves
of the term are read as they are meant. -/
theorem Term.holds_fold_iff (hm : m.IsConsistent) {term : Term ι}
    (huses : ∀ s ∈ term.collections, m.Uses s)
    (hbuiltin : ∀ leaf ∈ term.leaves, leaf.test.isBuiltin = true) {document : Json}
    (hdocument : term.fold (documentBackend ι) = .ok document) {predicate : ι → Bool}
    (hpredicate : term.fold (predicateBackend ι) = .ok predicate) {item : ι}
    (hR : ∀ leaf ∈ term.leaves, leaf.IsReadBy m R item) :
    Document.Holds m R document item ↔ predicate item = true := by
  -- Under a collection the terms are about its elements, so the item is general.
  induction term generalizing document predicate item with
  | always =>
    cases hdocument
    cases hpredicate
    simp [documentBackend, predicateBackend, Document.single, Document.Holds]
  | never =>
    cases hdocument
    cases hpredicate
    simp [documentBackend, predicateBackend, Document.single, Document.Holds]
  | and left right ihl ihr =>
    simp only [collections, leaves, List.forall_mem_append] at huses hbuiltin hR
    obtain ⟨l, r, hl, hr, rfl⟩ := fold_and_eq_ok_iff.1 hdocument
    obtain ⟨p, q, hp, hq, rfl⟩ := fold_and_eq_ok_iff.1 hpredicate
    have hleft := ihl huses.1 hbuiltin.1 hl hp hR.1
    have hright := ihr huses.2 hbuiltin.2 hr hq hR.2
    simp only [documentBackend, predicateBackend, Document.holds_joinClause_must, hleft, hright,
      Bool.and_eq_true]
  | or left right ihl ihr =>
    simp only [collections, leaves, List.forall_mem_append] at huses hbuiltin hR
    obtain ⟨l, r, hl, hr, rfl⟩ := fold_or_eq_ok_iff.1 hdocument
    obtain ⟨p, q, hp, hq, rfl⟩ := fold_or_eq_ok_iff.1 hpredicate
    have hleft := ihl huses.1 hbuiltin.1 hl hp hR.1
    have hright := ihr huses.2 hbuiltin.2 hr hq hR.2
    simp only [documentBackend, predicateBackend, Document.holds_joinClause_should, hleft, hright,
      Bool.or_eq_true]
  | leaf target test =>
    cases hpredicate
    have hleaf : ⟨[], target, test⟩ ∈ (Term.leaf target test).leaves := by simp [leaves]
    exact Document.holds_leaf (hbuiltin _ hleaf) (hR _ hleaf) hdocument
  | any collection nullGuard inner ih =>
    simp only [collections, leaves, List.forall_mem_cons, List.forall_mem_map] at huses hbuiltin hR
    obtain ⟨d, hd, hdocument⟩ := bind_eq_ok.1 hdocument
    obtain ⟨p, hp, hpredicate⟩ := bind_eq_ok.1 hpredicate
    cases hdocument
    cases hpredicate
    have hcontains : ∀ element, m.Contains collection.path item element ↔
        element ∈ collection.members item := fun element => Mapper.contains_iff_mem hm huses.1
    -- At an element of the collection, what leads there from the item is left out of the paths.
    have hinner : ∀ element ∈ collection.members item,
        (Document.Holds m R d element ↔ p element = true) := by
      intro element helement
      refine ih huses.2 hbuiltin hd hp fun leaf hleaf => ?_
      intro last hleads
      exact hR leaf hleaf last ⟨element, (hcontains element).2 helement, hleads⟩
    rw [Document.holds_nested, List.any_eq_true]
    simp only [hcontains]
    exact exists_congr fun element => and_congr_right (hinner element)

/-! ## Documents of filters. -/

theorem Condition.isBuiltin_ofEmpty {op : Operator} (hop : op ∈ Operator.builtin)
    (kind : FieldKind) (nullable : Bool) :
    ∀ test ∈ (Condition.ofEmpty op kind nullable).tests, test.isBuiltin = true := by
  unfold ofEmpty
  split <;> simp [tests, Test.isBuiltin, hop]

namespace Compiler

/-- Built-in operators only ask for tests of built-in operators. -/
theorem isBuiltin_of_asks {c : Compiler ι} {op : Operator} (hop : op ∈ Operator.builtin)
    {test : Test} (h : c.Asks op test) : test.isBuiltin = true := by
  obtain ⟨map, accessor, name, raw, ignoreCase, condition, hcondition, htest⟩ := h
  have hcustom : ∀ symbol, op ≠ .custom symbol := by
    intro symbol heq
    subst heq
    simp [Operator.builtin] at hop
  rw [condition_of_builtin (q := ⟨name, none, op, raw, ignoreCase⟩) hcustom] at hcondition
  have hall : ∀ test ∈ condition.tests, test.isBuiltin = true := by
    cases hcondition
    split
    · exact Condition.isBuiltin_ofEmpty hop accessor.kind accessor.nullable
    · split
      · simp [Condition.tests, Test.isBuiltin]
      · split <;> simp [Condition.tests, Test.isBuiltin, hop]
  exact hall test htest

/-- The leaves of the query that a filter is compiled to, or none if it is not compiled. -/
def leaves (c : Compiler ι) (tree : FilterTree) : List (Leaf ι) :=
  match c.build (termBackend ι) tree with
  | .ok term => term.query.leaves
  | .error _ => []

/-- The term of a filter looks into collections of the mapper, and its leaves are tests that the
comparisons of the filter come to. -/
theorem requires_of_build {c : Compiler ι} {tree : FilterTree} {term : Built (Term ι)}
    (h : c.build (termBackend ι) tree = .ok term) :
    (∀ s ∈ term.query.collections, c.mapper.Uses s) ∧
      ∀ leaf ∈ term.query.leaves, ∃ q ∈ tree.root.comparisons,
        c.Requires q leaf.target leaf.test := by
  let Asked := fun target test => ∃ q ∈ tree.root.comparisons, c.Requires q target test
  have hkeeps : (termBackend ι).Keeps c.mapper Asked fun term =>
      (∀ s ∈ term.query.collections, c.mapper.Uses s) ∧
        ∀ leaf ∈ term.query.leaves, Asked leaf.target leaf.test :=
    { always := by simp [termBackend, Term.collections, Term.leaves]
      never := by simp [termBackend, Term.collections, Term.leaves]
      leaf := by
        intro target test query htest h
        cases h
        simpa [Term.collections, Term.leaves] using htest
      join := by
        intro conjunction l r hl hr
        cases conjunction <;>
          simp only [termBackend, Backend.join, Term.collections, Term.leaves,
            List.forall_mem_append] <;>
          exact ⟨⟨hl.1, hr.1⟩, hl.2, hr.2⟩
      any := by
        intro collection built nullGuard query huses hbuilt h
        cases h
        simp only [Term.collections, Term.leaves, List.forall_mem_cons, List.forall_mem_map]
        exact ⟨⟨huses, hbuilt.1⟩, hbuilt.2⟩ }
  exact hkeeps.of_build h fun q hq target test hrequires => ⟨q, hq, hrequires⟩

/-- Of the leaves of a term it is enough to know the operators of the filter. -/
theorem term_of_build {c : Compiler ι} {Asked : Test → Prop} {tree : FilterTree}
    (hasked : ∀ op ∈ tree.root.operators, ∀ test, c.Asks op test → Asked test)
    {term : Built (Term ι)} (h : c.build (termBackend ι) tree = .ok term) :
    (∀ s ∈ term.query.collections, c.mapper.Uses s) ∧
      ∀ leaf ∈ term.query.leaves, Asked leaf.test := by
  obtain ⟨huses, hleaves⟩ := requires_of_build h
  refine ⟨huses, fun leaf hleaf => ?_⟩
  obtain ⟨q, hq, hrequires⟩ := hleaves leaf hleaf
  exact hasked q.op (Expr.op_mem_operators hq) leaf.test hrequires.asks

/-- The document of a filter with built-in operators says of an item what the predicate of the
filter says, wherever the leaves of the filter are read as they are meant. -/
theorem document_agrees (c : Compiler ι) (hm : c.mapper.IsConsistent) {tree : FilterTree}
    (hbuiltin : ∀ op ∈ tree.root.operators, op ∈ Operator.builtin) {document : Built Json}
    (hdocument : c.build (documentBackend ι) tree = .ok document) {built : Built (ι → Bool)}
    (hbuilt : c.build (predicateBackend ι) tree = .ok built) {R : Json → ι → Prop} {item : ι}
    (hR : ∀ leaf ∈ c.leaves tree, leaf.IsReadBy c.mapper R item) :
    Document.Holds c.mapper R document.query item ↔ built.accepts item = true := by
  -- Both backends make their queries of one term.
  obtain ⟨term, hterm, hdocument⟩ := (build_eq_ok_iff_fold fun _ _ _ => rfl).1 hdocument
  obtain ⟨term', hterm', hbuilt⟩ := (build_eq_ok_iff_fold fun _ _ _ => rfl).1 hbuilt
  cases hterm.symm.trans hterm'
  simp only [leaves, hterm] at hR
  have hasked : ∀ op ∈ tree.root.operators, ∀ test, c.Asks op test → test.isBuiltin = true :=
    fun op hop test htest => isBuiltin_of_asks (hbuiltin op hop) htest
  obtain ⟨huses, htests⟩ := term_of_build hasked hterm
  exact Term.holds_fold_iff hm huses htests (Built.fold?_eq_some_iff.1 hdocument).1
    (Built.fold?_eq_some_iff.1 hbuilt).1 hR

/-- Whether there is a label of the first text that is not the second one. -/
def labelIsNot (label other : String) : FilterTree :=
  ⟨.group (.logical (labelIs label) .and
    (.comparison (.field "label" none) .notEqual (.value other false))), []⟩

/-- A search that knows of the label of an element. -/
def labelReading (query : Json) (labels : List String) : Prop :=
  query = Document.fieldQuery "term" "labels" (.string (labels.headD "")) false

theorem isReadBy_labelReading {leaf : Leaf (List String)} (hindex : leaf.target.index = none)
    (hpath : leaf.target.path = "labels")
    (hread : leaf.target.read = fun labels => .string (labels.headD "")) {text : String}
    (htest : leaf.test.positive = .compare .equal (.string text) false)
    (m : Mapper (List String)) (item : List String) : leaf.IsReadBy m labelReading item := by
  intro element _ query hquery
  simp only [Document.leaf, hindex, hpath, htest] at hquery
  cases hquery
  have hcompare : (Test.compare .equal (.string text) false).accepts (.string (element.headD "")) =
      true ↔ element.headD "" = text := by
    rw [← String.toList_inj]
    simp [Test.accepts, Operator.isNegated, holdsPositive, Value.isAbsent, Operator.isText,
      Value.compareSet?, compareTexts, Operator.admits]
  rw [htest, hread, hcompare]
  simp [labelReading, Document.fieldQuery, Document.single, Document.positive, Operator.positive,
    Operator.isNegated, Document.ofLiteral, eq_comm]

theorem document_agrees_labels :
    ∃ document built, labelCompiler.build (documentBackend _) (labelIsNot "b" "a") = .ok document ∧
      labelCompiler.build (predicateBackend _) (labelIsNot "b" "a") = .ok built ∧
      built.accepts ["a", "b"] = true ∧
      Document.Holds labelCompiler.mapper labelReading document.query ["a", "b"] := by
  obtain ⟨document, hdocument⟩ : ∃ document,
      labelCompiler.build (documentBackend _) (labelIsNot "b" "a") = .ok document := ⟨_, rfl⟩
  obtain ⟨built, hbuilt, haccepts⟩ : ∃ built,
      labelCompiler.build (predicateBackend _) (labelIsNot "b" "a") = .ok built ∧
        built.accepts ["a", "b"] = true := ⟨_, rfl, by decide⟩
  have hbuiltin : ∀ op ∈ (labelIsNot "b" "a").root.operators, op ∈ Operator.builtin := by decide
  have hR : ∀ leaf ∈ labelCompiler.leaves (labelIsNot "b" "a"),
      leaf.IsReadBy labelCompiler.mapper labelReading ["a", "b"] := by
    intro leaf hleaf
    rcases List.mem_cons.1 hleaf with rfl | hleaf
    · exact isReadBy_labelReading rfl rfl rfl rfl _ _
    · cases List.mem_singleton.1 hleaf
      exact isReadBy_labelReading rfl rfl rfl rfl _ _
  have hiff := document_agrees labelCompiler isConsistent_labelCompiler hbuiltin hdocument hbuilt hR
  exact ⟨document, built, hdocument, hbuilt, haccepts, hiff.2 haccepts⟩

end Compiler

end FilterQuery
