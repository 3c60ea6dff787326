import FilterQuery.Proofs.DocumentMeaning

/-!
# Flat clauses

Joining documents does not look deeper than to the clause that either of them consists of, and yet no
clause of a document stands directly inside one of the same kind, however deep: the queries of a clause
are kept flat by every join, so merging them when it is joined again keeps them flat. The order in which
documents are joined does not matter then, only the order of what is joined.

## Key results

- `joinClause_assoc`: joining documents is associative
- `isFlat_clause`: what makes a clause flat
- `isFlattened_joinClause`: joined documents stay flat
- `document_flattens`: documents of filters are flat at every depth
-/

namespace FilterQuery

/-- Whether the first value stands somewhere in the second one, or is the second one itself. -/
inductive Json.Occurs (part : Json) : Json → Prop
  | here : Occurs part part
  | item {item : Json} {items : List Json} (hitem : item ∈ items) (h : Occurs part item) :
      Occurs part (.array items)
  | member {name : String} {value : Json} {members : List (String × Json)}
      (hmember : (name, value) ∈ members) (h : Occurs part value) : Occurs part (.object members)

theorem Json.Occurs.trans {part inner outer : Json} (h : part.Occurs inner)
    (hinner : inner.Occurs outer) : part.Occurs outer := by
  induction hinner with
  | here => exact h
  | item hitem _ ih => exact .item hitem ih
  | member hmember _ ih => exact .member hmember ih

/-- Whether a value is neither an object nor an array. -/
def Json.IsScalar : Json → Prop
  | .object _ | .array _ => False
  | _ => True

theorem Json.isScalar_string (text : String) : (Json.string text).IsScalar := trivial

namespace Document

variable {clause : String} {document : Json}

/-! ## Joining. -/

/-- The queries that a document brings into a clause. -/
def joined (clause : String) (document : Json) : List Json :=
  (clauseItems? clause document).getD [document]

theorem clauseItems?_clause (clause : String) (queries : List Json) :
    clauseItems? clause (single "bool" (single clause (.array queries))) = some queries := by
  simp [clauseItems?, single]

theorem joined_clause (clause : String) (queries : List Json) :
    joined clause (single "bool" (single clause (.array queries))) = queries := by
  rw [joined, clauseItems?_clause, Option.getD_some]

/-- Joining documents is associative. -/
theorem joinClause_assoc (clause : String) (a b c : Json) :
    joinClause clause (joinClause clause a b) c = joinClause clause a (joinClause clause b c) := by
  -- What was joined before brings in all its queries, in their order.
  have hjoined : ∀ x y, joined clause (joinClause clause x y) = joined clause x ++ joined clause y :=
    fun x y => joined_clause clause _
  show single "bool" (single clause (.array (joined clause _ ++ joined clause c))) =
    single "bool" (single clause (.array (joined clause a ++ joined clause _)))
  rw [hjoined, hjoined, List.append_assoc]

/-! ## Flat documents. -/

/-- Whether the document is nothing but a clause of the kind. -/
def IsBare (clause : String) (document : Json) : Prop :=
  ∃ value, document = single "bool" (single clause value)

/-- Whether every clause of the kind in the document, at any depth, has at least two queries, none of
which is nothing but such a clause. -/
def IsFlat (clause : String) (document : Json) : Prop :=
  ∀ members queries, (Json.object members).Occurs document → (clause, .array queries) ∈ members →
    2 ≤ queries.length ∧ ∀ query ∈ queries, ¬IsBare clause query

theorem IsFlat.of_occurs {part : Json} (h : IsFlat clause document) (hpart : part.Occurs document) :
    IsFlat clause part :=
  fun members queries hmembers => h members queries (hmembers.trans hpart)

/-- An object is flat if its members are, and those that are clauses have queries enough, none of which
is nothing but such a clause. -/
theorem isFlat_object {members : List (String × Json)}
    (hvalues : ∀ member ∈ members, IsFlat clause member.2)
    (hclauses : ∀ queries, (clause, .array queries) ∈ members →
      2 ≤ queries.length ∧ ∀ query ∈ queries, ¬IsBare clause query) :
    IsFlat clause (.object members) := by
  intro inner queries hinner hqueries
  cases hinner with
  | here => exact hclauses queries hqueries
  | member hmember h => exact hvalues _ hmember inner queries h hqueries

theorem isFlat_single {name : String} {value : Json} (hvalue : IsFlat clause value)
    (hclause : ∀ queries, name = clause → value = .array queries →
      2 ≤ queries.length ∧ ∀ query ∈ queries, ¬IsBare clause query) :
    IsFlat clause (single name value) := by
  refine isFlat_object (by simpa using hvalue) fun queries hqueries => ?_
  obtain ⟨hname, hvalue⟩ := Prod.mk.inj (List.mem_singleton.1 hqueries)
  exact hclause queries hname.symm hvalue.symm

theorem isFlat_array {queries : List Json} (h : ∀ query ∈ queries, IsFlat clause query) :
    IsFlat clause (.array queries) := by
  intro members inner hmembers hinner
  cases hmembers with
  | item hitem hoccurs => exact h _ hitem members inner hoccurs hinner

/-- A member that is an object is no clause. -/
theorem isFlat_single_object {name : String} {members : List (String × Json)}
    (h : IsFlat clause (.object members)) : IsFlat clause (single name (.object members)) := by
  refine isFlat_single h ?_
  rintro _ _ ⟨⟩

/-- A clause is flat if its queries are, and, if it is of the kind, has queries enough, none of which is
nothing but such a clause. -/
theorem isFlat_clause {name : String} {queries : List Json}
    (hqueries : ∀ query ∈ queries, IsFlat clause query)
    (hclause : name = clause → 2 ≤ queries.length ∧ ∀ query ∈ queries, ¬IsBare clause query) :
    IsFlat clause (single "bool" (single name (.array queries))) := by
  refine isFlat_single_object (isFlat_single (isFlat_array hqueries) ?_)
  rintro _ hname ⟨⟩
  exact hclause hname

/-! ## Documents of tests. -/

theorem isFlat_of_isScalar {value : Json} (h : value.IsScalar) : IsFlat clause value := by
  intro members _ hmembers
  cases hmembers with
  | here | item | member => exact h.elim

theorem isFlat_single_of_isScalar {name : String} {value : Json} (h : value.IsScalar) :
    IsFlat clause (single name value) := by
  refine isFlat_single (isFlat_of_isScalar h) ?_
  rintro _ _ rfl
  exact h.elim

theorem isScalar_ofLiteral (literal : Value) : (ofLiteral literal).IsScalar := by
  unfold ofLiteral
  split <;> exact trivial

theorem isFlat_fieldQuery (kind field : String) {value : Json} (hvalue : value.IsScalar)
    (ignoreCase : Bool) : IsFlat clause (fieldQuery kind field value ignoreCase) := by
  refine isFlat_single_object (isFlat_single_object (isFlat_object ?_ ?_))
  · have hflag : IsFlat clause (.bool true) := isFlat_of_isScalar trivial
    cases ignoreCase <;> simp [isFlat_of_isScalar hvalue, hflag]
  · rintro queries hqueries
    have hne : Json.array queries ≠ value := by
      rintro rfl
      exact hvalue.elim
    cases ignoreCase <;> simp [hne] at hqueries

theorem isFlat_range (field bound : String) (literal : Value) :
    IsFlat clause (range field bound literal) :=
  isFlat_single_object (isFlat_single_object
    (isFlat_single_of_isScalar (isScalar_ofLiteral literal)))

theorem isFlat_positive (field : String) (op : Operator) (literal : Value) (ignoreCase : Bool) :
    IsFlat clause (positive field op literal ignoreCase) := by
  unfold positive
  split
  · exact isFlat_range field "gt" literal
  · exact isFlat_range field "gte" literal
  · exact isFlat_range field "lt" literal
  · exact isFlat_range field "lte" literal
  · exact isFlat_fieldQuery _ field (Json.isScalar_string _) ignoreCase
  · exact isFlat_fieldQuery _ field (Json.isScalar_string _) ignoreCase
  · exact isFlat_fieldQuery _ field (Json.isScalar_string _) ignoreCase
  · exact isFlat_fieldQuery _ field (isScalar_ofLiteral literal) ignoreCase

theorem isFlat_exists (path : String) : IsFlat clause (exists? path) :=
  isFlat_single_object (isFlat_single_of_isScalar (Json.isScalar_string path))

theorem isFlat_leaf_positive {ι : Type} {target : Target ι} {test : Test}
    (hbuiltin : test.isBuiltin = true) {query : Json} (h : leaf target test.positive = .ok query) :
    IsFlat clause query := by
  obtain ⟨op, literal, ignoreCase, rfl⟩ | rfl := eq_positive_or_exists hbuiltin h
  · exact isFlat_positive target.path op literal ignoreCase
  · exact isFlat_exists target.path

/-! ## Documents that stay flat. -/

/-- Whether a document is flat and can be joined into a clause that stays flat: if it is nothing but
such a clause, its queries are merged. -/
structure IsFlattened (clause : String) (document : Json) : Prop where
  flat : IsFlat clause document
  merges : IsBare clause document → ∃ queries, clauseItems? clause document = some queries

theorem isFlattened_of_ne_bool {kind : String} {value : Json} (hkind : kind ≠ "bool")
    (h : IsFlat clause (single kind value)) : IsFlattened clause (single kind value) := by
  refine ⟨h, ?_⟩
  rintro ⟨inner, hinner⟩
  simp [single, hkind] at hinner

/-- A clause is not negation, so negated documents have nothing to merge. -/
theorem isFlattened_mustNot (hclause : clause ≠ "must_not") (h : IsFlat clause document) :
    IsFlattened clause (mustNot document) where
  flat := isFlat_clause (List.forall_mem_singleton.2 h) fun hname => absurd hname.symm hclause
  merges := by
    rintro ⟨value, hvalue⟩
    simp [mustNot, single, hclause.symm] at hvalue

theorem isFlattened_leaf {ι : Type} (hclause : clause ≠ "must_not") {target : Target ι} {test : Test}
    (hbuiltin : test.isBuiltin = true) {query : Json} (h : leaf target test = .ok query) :
    IsFlattened clause query := by
  rw [leaf_eq_positive] at h
  cases hpositive : leaf target test.positive with
  | error e => simp [hpositive, Except.map] at h
  | ok positive =>
    rw [hpositive] at h
    cases h
    have hflat : IsFlat clause positive := isFlat_leaf_positive hbuiltin hpositive
    obtain ⟨kind, value, hkind, rfl⟩ := exists_single_of_leaf_positive hbuiltin hpositive
    cases test.isNegated with
    | true => exact isFlattened_mustNot hclause hflat
    | false =>
      refine isFlattened_of_ne_bool ?_ hflat
      rintro rfl
      simp at hkind

/-- The queries that a flat document brings into a clause are flat. -/
theorem IsFlattened.isFlat_joined (h : IsFlattened clause document) (name : String) :
    ∀ query ∈ joined name document, IsFlat clause query := by
  intro query hquery
  apply h.flat.of_occurs
  unfold joined at hquery
  cases hitems : clauseItems? name document with
  | none =>
    rw [hitems] at hquery
    rw [List.mem_singleton.1 hquery]
    exact .here
  | some queries =>
    rw [hitems] at hquery
    rw [eq_of_clauseItems? hitems]
    exact .member (List.mem_singleton_self _) (.member (List.mem_singleton_self _)
      (.item hquery .here))

/-- A flat document brings at least one query into a clause, and none that is nothing but such a
clause. -/
theorem IsFlattened.joined_spec (h : IsFlattened clause document) :
    1 ≤ (joined clause document).length ∧ ∀ query ∈ joined clause document, ¬IsBare clause query := by
  unfold joined
  cases hitems : clauseItems? clause document with
  | none =>
    refine ⟨Nat.le_refl 1, List.forall_mem_singleton.2 fun hbare => ?_⟩
    obtain ⟨queries, hqueries⟩ := h.merges hbare
    rw [hitems] at hqueries
    cases hqueries
  | some queries =>
    have hdocument := eq_of_clauseItems? hitems
    obtain ⟨hlength, hbare⟩ := h.flat [(clause, .array queries)] queries
      (hdocument ▸ .member (List.mem_singleton_self _) .here) (List.mem_singleton_self _)
    exact ⟨Nat.le_of_succ_le hlength, hbare⟩

/-- Joined documents stay flat, whichever of the clauses they are joined in. -/
theorem isFlattened_joinClause {name : String} {left right : Json} (hl : IsFlattened clause left)
    (hr : IsFlattened clause right) : IsFlattened clause (joinClause name left right) where
  flat := by
    refine isFlat_clause (List.forall_mem_append.2 ⟨hl.isFlat_joined name, hr.isFlat_joined name⟩) ?_
    -- In a clause of the kind each side brings in at least one query, and none that is bare.
    rintro rfl
    obtain ⟨hleft, hleftBare⟩ := hl.joined_spec
    obtain ⟨hright, hrightBare⟩ := hr.joined_spec
    refine ⟨?_, List.forall_mem_append.2 ⟨hleftBare, hrightBare⟩⟩
    show 2 ≤ (joined name left ++ joined name right).length
    rw [List.length_append]
    omega
  merges := by
    rintro ⟨value, hvalue⟩
    simp only [joinClause, single, Json.object.injEq, List.cons.injEq, Prod.mk.injEq] at hvalue
    obtain ⟨⟨-, ⟨⟨rfl, -⟩, -⟩⟩, -⟩ := hvalue
    exact ⟨_, clauseItems?_clause _ _⟩

theorem isFlattened_nested (hclause : clause ≠ "query") {path : String}
    (h : IsFlat clause document) :
    IsFlattened clause
      (single "nested" (.object [("path", .string path), ("query", document)])) := by
  refine isFlattened_of_ne_bool (by decide) (isFlat_single_object (isFlat_object ?_ ?_))
  · have hpath : IsFlat clause (.string path) := isFlat_of_isScalar (Json.isScalar_string path)
    simp [hpath, h]
  · intro queries hqueries
    simp [hclause] at hqueries

theorem isFlattened_constant {kind : String} (hkind : kind ≠ "bool") :
    IsFlattened clause (single kind (.object [])) := by
  refine isFlattened_of_ne_bool hkind (isFlat_single_object (isFlat_object ?_ ?_))
  · exact fun _ hmember => absurd hmember List.not_mem_nil
  · exact fun _ hmember => absurd hmember List.not_mem_nil

end Document

/-! ## Documents of filters. -/

/-- The clause that joins documents. -/
def Conjunction.clause : Conjunction → String
  | and => "must"
  | or => "should"

theorem join_documentBackend {ι : Type} (conjunction : Conjunction) :
    (documentBackend ι).join conjunction = Document.joinClause conjunction.clause := by
  cases conjunction <;> rfl

/-- The backend of documents keeps them flat. -/
theorem keeps_isFlattened {ι : Type} (m : Mapper ι) (conjunction : Conjunction) :
    (documentBackend ι).Keeps m (fun _ test => test.isBuiltin = true) fun built =>
      Document.IsFlattened conjunction.clause built.query where
  always := Document.isFlattened_constant (by decide)
  never := Document.isFlattened_constant (by decide)
  leaf := by
    intro target test query htest h
    exact Document.isFlattened_leaf (by cases conjunction <;> decide) htest h
  join := by
    intro other l r hl hr
    rw [join_documentBackend]
    exact Document.isFlattened_joinClause hl hr
  any := by
    intro collection built nullGuard query _ hbuilt h
    cases h
    exact Document.isFlattened_nested (by cases conjunction <;> decide) hbuilt.flat

namespace Compiler

/-- Documents may be joined in any order that keeps their own order. In the document of a filter with
built-in operators no clause, at any depth, has less than two queries or one that is nothing but a
clause of the same kind. -/
theorem document_flattens {ι : Type} (c : Compiler ι) :
    (∀ conjunction (x y z : Json),
        (documentBackend ι).join conjunction ((documentBackend ι).join conjunction x y) z =
          (documentBackend ι).join conjunction x ((documentBackend ι).join conjunction y z)) ∧
      ∀ tree : FilterTree, (∀ op ∈ tree.root.operators, op ∈ Operator.builtin) →
        ∀ document, c.build (documentBackend ι) tree = .ok document →
          ∀ conjunction : Conjunction, Document.IsFlat conjunction.clause document.query := by
  constructor
  · intro conjunction x y z
    rw [join_documentBackend, Document.joinClause_assoc]
  · intro tree hbuiltin document h conjunction
    refine ((keeps_isFlattened c.mapper conjunction).of_build h fun q hq target test hrequires => ?_).flat
    exact Compiler.isBuiltin_of_asks (hbuiltin q.op (Expr.op_mem_operators hq)) hrequires.asks

/-- The query for the elements with a label. -/
def labelQuery (label : String) : Json :=
  Document.fieldQuery "term" "labels" (.string label) false

/-- Three labels of which one is sought, the last two in a group of their own. -/
def labelsGrouped : FilterTree :=
  ⟨.group (.logical (labelIs "a") .or (.group (.logical (labelIs "b") .or (labelIs "c")))), []⟩

/-- A group inside a group of the same kind is merged with it, inside the query for the collection of
both. -/
theorem document_flattens_labels :
    ∃ document, labelCompiler.build (documentBackend _) labelsGrouped = .ok document ∧
      (Json.object [("should", .array [labelQuery "a", labelQuery "b", labelQuery "c"])]).Occurs
        document.query ∧
      Document.IsFlat "should" document.query := by
  refine ⟨_, rfl, ?_, ?_⟩
  · -- The clause stands in the query of the nested query.
    exact .member (List.mem_singleton_self _) (.member (List.mem_cons_of_mem _
      (List.mem_singleton_self _)) (.member (List.mem_singleton_self _) .here))
  · exact (document_flattens labelCompiler).2 labelsGrouped (by decide) _ rfl .or

end Compiler

end FilterQuery
