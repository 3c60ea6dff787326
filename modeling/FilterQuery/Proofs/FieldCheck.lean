import FilterQuery.Compile.Document
import FilterQuery.Proofs.Merging

/-!
# Fields that are not there

Checking a filter looks its fields up one after the other. The compiler looks up a field when it
comes to a comparison of it, and may stop before for another reason. Both go from left to right, so
that the first field that is not there is the same for both.

What the compiler reports besides comes from the expression or from an operation of the backend,
which is only asked about fields that are there. A backend may have fields of its own and report that
one of those is not there; the check does not know of them.

## Key results

- `error_of_comparison`: what can go wrong with a comparison
- `hasField_of_yields`: the fields of an expression that is compiled are there
- `find?_of_error`: a field that is reported is the first one that is not there
- `check_agrees`: what compiling a filter tells about checking it
-/

namespace FilterQuery

variable {ι Q : Type}

/-! ## Names in expressions. -/

/-- The names of the fields in an expression, from left to right, with empty ones for those that are
missing in the text. -/
def Expr.names : Expr → List String
  | .logical left _ right => left.names ++ right.names
  | .comparison left _ right => left.names ++ right.names
  | .group inner => inner.names
  | .field name _ => [name]
  | .value _ _ => []

theorem Expr.map_member_fields (e : Expr) :
    e.fields.map (·.member) = e.names.filter (· ≠ "") := by
  induction e with
  | logical left conjunction right ihl ihr => simp [fields, names, ihl, ihr]
  | comparison left op right ihl ihr => simp [fields, names, ihl, ihr]
  | group inner ih => exact ih
  | field name index => by_cases h : name = "" <;> simp [fields, names, h]
  | value raw ignoreCase => rfl

/-- Where no name is missing, the fields of an expression are told by all its names. -/
theorem Expr.map_member_fields_of_named {e : Expr} (h : "" ∉ e.names) :
    e.fields.map (·.member) = e.names := by
  rw [e.map_member_fields, List.filter_eq_self]
  exact fun name hname => by simpa using fun he : name = "" => h (he ▸ hname)

/-- A filter passes the check iff it is valid and its fields are there, or need not be. -/
theorem Mapper.check_eq_ok_iff {m : Mapper ι} {tree : FilterTree} :
    m.check tree = .ok () ↔ tree.isValid = true ∧ (m.config.ignoreUnmappedFields = true ∨
      (tree.fields.map (·.member)).find? (fun name => !m.hasField name) = none) := by
  simp only [check, List.find?_map, Option.map_eq_none_iff, Function.comp_def]
  cases tree.isValid <;> cases m.config.ignoreUnmappedFields <;>
    cases tree.fields.find? fun field => !m.hasField field.member <;> simp

/-- The check reports the first field that is not there. -/
theorem Mapper.check_eq_unmappedField_iff {m : Mapper ι} {tree : FilterTree} {name : String} :
    m.check tree = .error (.unmappedField name) ↔ tree.isValid = true ∧
      m.config.ignoreUnmappedFields = false ∧
        (tree.fields.map (·.member)).find? (fun name => !m.hasField name) = some name := by
  simp only [check, List.find?_map, Option.map_eq_some_iff, Function.comp_def]
  cases tree.isValid <;> cases m.config.ignoreUnmappedFields <;>
    cases tree.fields.find? fun field => !m.hasField field.member <;> simp

/-! ## Errors of the backend. -/

theorem bind_eq_error {ε α β : Type} {x : Except ε α} {f : α → Except ε β} {error : ε} :
    x >>= f = .error error ↔ x = .error error ∨ ∃ a, x = .ok a ∧ f a = .error error := by
  cases x with
  | error e => simp [bind, Except.bind]
  | ok a => simp [bind, Except.bind]

/-- A traversal fails where one of its steps does. -/
theorem exists_of_mapM_eq_error {ε α β : Type} {f : α → Except ε β} {as : List α} {error : ε}
    (h : as.mapM f = .error error) : ∃ a ∈ as, f a = .error error := by
  induction as with
  | nil => cases h
  | cons a as ih =>
    rw [List.mapM_cons] at h
    rcases bind_eq_error.1 h with h | ⟨b, -, h⟩
    · exact ⟨a, by simp, h⟩
    · rcases bind_eq_error.1 h with h | ⟨bs, -, h⟩
      · obtain ⟨a', ha', h⟩ := ih h
        exact ⟨a', by simp [ha'], h⟩
      · cases h

/-- Whether an operation of the backend fails with the error: the one on collections, or the one on
tests of a field, for a field that is there. -/
def Backend.Raises (backend : Backend ι Q) (m : Mapper ι) (error : FilterError) : Prop :=
  (∃ target test, m.hasField target.name = true ∧ backend.leaf target test = .error error) ∨
    ∃ collection inner nullGuard, backend.any collection inner nullGuard = .error error

theorem not_raises_predicateBackend (m : Mapper ι) (error : FilterError) :
    ¬(predicateBackend ι).Raises m error := by
  rintro (⟨target, test, -, h⟩ | ⟨collection, inner, nullGuard, h⟩) <;> cases h

/-- For query documents the only errors are constructs that cannot be expressed. -/
theorem exists_of_raises_documentBackend {m : Mapper ι} {error : FilterError}
    (h : (documentBackend ι).Raises m error) :
    ∃ construct, error = .notSupported "document" construct := by
  rcases h with ⟨target, test, -, h⟩ | ⟨collection, inner, nullGuard, h⟩
  · simp only [documentBackend, Document.leaf] at h
    split at h
    · cases h
      exact ⟨_, rfl⟩
    · split at h
      · cases h
      · cases h
      · split at h <;> cases h
        exact ⟨_, rfl⟩
      · cases h
  · cases h

namespace Compiler

variable {c : Compiler ι} {backend : Backend ι Q} {error : FilterError}

theorem raises_of_finish {part : Part ι Q} (h : c.finish backend part = .error error) :
    backend.Raises c.mapper error := by
  induction part with
  | closed built => cases h
  | nested collection inner ih =>
    rcases bind_eq_error.1 h with h | ⟨built, -, h⟩
    · exact ih h
    · rcases bind_eq_error.1 h with h | ⟨query, -, h⟩
      · exact .inr ⟨_, _, _, h⟩
      · cases h

theorem raises_of_joinFinished {conjunction : Conjunction} {l r : Part ι Q}
    (h : c.joinFinished backend conjunction l r = .error error) :
    backend.Raises c.mapper error := by
  rcases bind_eq_error.1 h with h | ⟨left, -, h⟩
  · exact raises_of_finish h
  · rcases bind_eq_error.1 h with h | ⟨right, -, h⟩
    · exact raises_of_finish h
    · cases h

theorem raises_of_combine {conjunction : Conjunction} {grouped : Bool} {l r : Part ι Q}
    (h : c.combine backend conjunction grouped l r = .error error) :
    backend.Raises c.mapper error := by
  induction l generalizing r with
  | closed built =>
    rw [combine_closed_left] at h
    exact raises_of_joinFinished h
  | nested s l ih =>
    cases r with
    | closed built =>
      rw [combine_closed_right] at h
      exact raises_of_joinFinished h
    | nested t r =>
      rw [combine] at h
      split at h
      · rcases bind_eq_error.1 h with h | ⟨inner, -, h⟩
        · exact ih h
        · cases h
      · exact raises_of_joinFinished h

theorem raises_of_anyPart {first : Part ι Q} {rest : List (Part ι Q)}
    (h : c.anyPart backend first rest = .error error) : backend.Raises c.mapper error := by
  cases rest with
  | nil => cases h
  | cons next rest =>
    rcases bind_eq_error.1 h with h | ⟨built, -, h⟩
    · exact raises_of_finish h
    · rcases bind_eq_error.1 h with h | ⟨builts, -, h⟩
      · obtain ⟨part, -, h⟩ := exists_of_mapM_eq_error h
        exact raises_of_finish h
      · cases h

theorem raises_of_leaf {target : Target ι} (hthere : c.mapper.hasField target.name = true)
    {condition : Condition} (h : leaf backend target condition = .error error) :
    backend.Raises c.mapper error := by
  -- Whatever is made of two leaves, an error comes from one of them.
  have hpair : ∀ {first second : Test} {join : Q → Q → Q},
      (do return join (← backend.leaf target first) (← backend.leaf target second)) =
        Except.error error → backend.Raises c.mapper error := by
    intro first second join h
    rcases bind_eq_error.1 h with h | ⟨l, -, h⟩
    · exact .inl ⟨_, _, hthere, h⟩
    · rcases bind_eq_error.1 h with h | ⟨r, -, h⟩
      · exact .inl ⟨_, _, hthere, h⟩
      · cases h
  cases condition with
  | test only => exact .inl ⟨_, _, hthere, h⟩
  | either first second => exact hpair h
  | both first second => exact hpair h
  | never unfit => cases h

theorem raises_of_alongChain {target : (ι → Value) → Target ι}
    (hthere : ∀ read, c.mapper.hasField (target read).name = true) {condition : Condition}
    {chain : Chain ι} (h : alongChain backend target condition chain = .error error) :
    backend.Raises c.mapper error := by
  induction chain with
  | value read =>
    rcases bind_eq_error.1 h with h | ⟨query, -, h⟩
    · exact raises_of_leaf (hthere read) h
    · cases h
  | each path elements inner ih =>
    rcases bind_eq_error.1 h with h | ⟨inside, -, h⟩
    · exact ih h
    · cases h

/-! ## Errors of the compiler. -/

/-- A comparison asks nothing of a value only if its operator is not known. -/
theorem exists_of_condition_eq_error {map : FieldMap ι} {accessor : Accessor ι} {q : Comparison}
    (h : Condition.of c.mapper.config c.operators map accessor q.name q.op q.raw q.ignoreCase =
      .error error) : ∃ symbol, error = .unknownOperator symbol := by
  by_cases hcustom : ∃ symbol, q.op = .custom symbol
  · obtain ⟨symbol, hop⟩ := hcustom
    simp only [Condition.of, hop] at h
    split at h <;> cases h
    exact ⟨symbol, rfl⟩
  · rw [condition_of_builtin (not_exists.1 hcustom)] at h
    cases h

theorem error_of_accessorPart {map : FieldMap ι} {accessor : Accessor ι} {q : Comparison}
    (hthere : c.mapper.hasField q.name = true)
    (h : c.accessorPart backend map q.name q.index q.op q.raw q.ignoreCase accessor =
      .error error) :
    (∃ symbol, error = .unknownOperator symbol) ∨ backend.Raises c.mapper error := by
  rcases bind_eq_error.1 h with h | ⟨condition, -, h⟩
  · exact .inl (exists_of_condition_eq_error h)
  · cases condition with
    | never unfit => cases h
    | _ =>
      rcases bind_eq_error.1 h with h | ⟨part, -, h⟩
      · refine .inr (raises_of_alongChain ?_ h)
        exact fun _ => hthere
      · cases h

/-- What can go wrong with a comparison: its field is not there, is used with an index or without
one in the wrong place, the operator is not known, or the backend fails. -/
theorem error_of_comparison {q : Comparison}
    (h : c.comparison backend q.name q.index q.op q.raw q.ignoreCase = .error error) :
    (error = .unmappedField q.name ∧ c.mapper.config.ignoreUnmappedFields = false ∧
      c.mapper.hasField q.name = false) ∨
    (∃ problem, error = .invalidShape problem) ∨ (∃ symbol, error = .unknownOperator symbol) ∨
      backend.Raises c.mapper error := by
  have hfield := c.mapper.hasField_eq_isSome_find? q.name
  unfold comparison at h
  cases hmap : c.mapper.find? q.name with
  | none =>
    rw [hmap] at hfield
    simp only [hmap] at h
    split at h
    · cases h
    · cases h
      exact .inl ⟨rfl, Bool.eq_false_iff.2 ‹_›, hfield⟩
  | some map =>
    rw [hmap, Option.isSome_some] at hfield
    simp only [hmap] at h
    right
    rcases bind_eq_error.1 h with h | ⟨⟨first, rest⟩, -, h⟩
    · unfold FieldMap.accessors at h
      split at h <;> cases h <;> exact .inl ⟨_, rfl⟩
    · right
      rcases bind_eq_error.1 h with h | ⟨p, -, h⟩
      · exact error_of_accessorPart (q := q) hfield h
      · rcases bind_eq_error.1 h with h | ⟨ps, -, h⟩
        · obtain ⟨accessor, -, h⟩ := exists_of_mapM_eq_error h
          exact error_of_accessorPart (q := q) hfield h
        · rcases bind_eq_error.1 h with h | ⟨part, -, h⟩
          · exact .inr (raises_of_anyPart h)
          · cases h

/-! ## The first field that is not there. -/

/-- If fields have to be there, those of an expression that is compiled are. -/
theorem hasField_of_yields (hmust : c.mapper.config.ignoreUnmappedFields = false)
    {grouped : Bool} {e : Expr} {part : Part ι Q} {unfit : List UnfitValue}
    (h : c.Yields backend grouped e part unfit) :
    ∀ name ∈ e.names, c.mapper.hasField name = true := by
  induction h with
  | group _ ih => exact ih
  | logical _ _ _ ihl ihr => exact List.forall_mem_append.2 ⟨ihl, ihr⟩
  | @comparison _ name _ _ _ _ _ _ h =>
    simp only [Expr.names, List.append_nil, List.forall_mem_singleton]
    rw [Mapper.hasField_eq_isSome_find?]
    unfold comparison at h
    cases hmap : c.mapper.find? name with
    | none => simp [hmap, hmust] at h
    | some map => rfl

/-- A field that the compiler reports, and not the backend, is the first one of the expression that
is not there. -/
theorem find?_of_error {grouped : Bool} {e : Expr} {name : String}
    (h : c.expr backend grouped e = .error (.unmappedField name)) :
    backend.Raises c.mapper (.unmappedField name) ∨ c.mapper.config.ignoreUnmappedFields = false ∧
      e.names.find? (fun name => !c.mapper.hasField name) = some name := by
  induction e generalizing grouped with
  | group inner ih => exact ih h
  | logical left conjunction right ihl ihr =>
    rw [Expr.names, List.find?_append]
    rcases bind_eq_error.1 h with h | ⟨⟨l, us⟩, hleft, h⟩
    · exact (ihl h).imp_right fun ⟨hmust, hfind⟩ => ⟨hmust, by rw [hfind, Option.some_or]⟩
    · rcases bind_eq_error.1 h with h | ⟨⟨r, vs⟩, -, h⟩
      · refine (ihr h).imp_right fun ⟨hmust, hfind⟩ => ⟨hmust, ?_⟩
        -- The left side was compiled, so its fields are there.
        have hleft : left.names.find? (fun name => !c.mapper.hasField name) = none := by
          rw [List.find?_eq_none]
          intro name hname
          simp [hasField_of_yields hmust (expr_eq_ok_iff.1 hleft) name hname]
        rw [hleft, Option.none_or, hfind]
      · rcases bind_eq_error.1 h with h | ⟨part, -, h⟩
        · exact .inl (raises_of_combine h)
        · cases h
  | comparison left op right _ _ =>
    unfold expr at h
    split at h
    case h_3 field index op raw ignoreCase heq =>
      cases heq
      rcases error_of_comparison (q := ⟨field, index, op, raw, ignoreCase⟩) h with
        ⟨heq, hmust, hnot⟩ | ⟨problem, heq⟩ | ⟨symbol, heq⟩ | hraises
      · cases heq
        exact .inr ⟨hmust, by simp [Expr.names, hnot]⟩
      · cases heq
      · cases heq
      · exact .inl hraises
    -- The others are no comparisons, or are none of a field with a value.
    all_goals simp_all
  | field name index => cases h
  | value raw ignoreCase => cases h

/-- A filter that is compiled passes the check of its fields. -/
theorem check_of_build {tree : FilterTree} (hnames : "" ∉ tree.root.names) {built : Built Q}
    (h : c.build backend tree = .ok built) : c.mapper.check tree = .ok () := by
  obtain ⟨hvalid, part, unfit, hyields, -⟩ := build_eq_ok_iff.1 h
  rw [Mapper.check_eq_ok_iff, FilterTree.fields, Expr.map_member_fields_of_named hnames]
  refine ⟨hvalid, or_iff_not_imp_left.2 fun hmust => List.find?_eq_none.2 fun name hname => ?_⟩
  simp [hasField_of_yields (Bool.eq_false_iff.2 hmust) hyields name hname]

/-- If the compiler, and not the backend, reports that a field is not there, so does the check. -/
theorem check_of_unmappedField {tree : FilterTree} (hnames : "" ∉ tree.root.names) {name : String}
    (hbackend : ¬backend.Raises c.mapper (.unmappedField name))
    (h : c.build backend tree = .error (.unmappedField name)) :
    c.mapper.check tree = .error (.unmappedField name) := by
  rw [Mapper.check_eq_unmappedField_iff, FilterTree.fields,
    Expr.map_member_fields_of_named hnames]
  unfold build at h
  cases hvalid : tree.isValid with
  | false =>
    rw [hvalid] at h
    cases h
  | true =>
    simp only [hvalid, Bool.not_true, Bool.false_eq_true, if_false] at h
    rcases bind_eq_error.1 h with h | ⟨⟨part, unfit⟩, -, h⟩
    · exact ⟨rfl, (find?_of_error h).resolve_left hbackend⟩
    · rcases bind_eq_error.1 h with h | ⟨built, -, h⟩
      · exact absurd (raises_of_finish h) hbackend
      · split at h <;> cases h

/-- A filter that is compiled passes the check of its fields. If the compiler reports that a field
is not there, the check reports the same one, provided that no operation of the backend fails with
this error; none for predicates or for query documents does. -/
theorem check_agrees (c : Compiler ι) (backend : Backend ι Q) (tree : FilterTree)
    (hnames : "" ∉ tree.root.names) :
    (∀ built, c.build backend tree = .ok built → c.mapper.check tree = .ok ()) ∧
      ∀ name, (¬backend.Raises c.mapper (.unmappedField name) →
        c.build backend tree = .error (.unmappedField name) →
          c.mapper.check tree = .error (.unmappedField name)) ∧
        ¬(predicateBackend ι).Raises c.mapper (.unmappedField name) ∧
        ¬(documentBackend ι).Raises c.mapper (.unmappedField name) := by
  refine ⟨fun built => check_of_build hnames, fun name => ⟨check_of_unmappedField hnames, ?_, ?_⟩⟩
  · exact not_raises_predicateBackend c.mapper _
  · intro hraises
    obtain ⟨construct, hconstruct⟩ := exists_of_raises_documentBackend hraises
    cases hconstruct

/-- Whether there is the label `a` and the size is 1, or the color is red, where there are labels
only. -/
def sizedLabel : FilterTree where
  root := .logical (.logical (labelIs "a") .and (.comparison (.field "size" none) .equal
    (.value "1" false))) .or (.comparison (.field "color" (some "x")) .equal (.value "red" false))

/-- Of the two fields that are not there, both report the first one. -/
theorem check_agrees_labels :
    "" ∉ sizedLabel.root.names ∧
      labelCompiler.build (documentBackend _) sizedLabel = .error (.unmappedField "size") ∧
      labelCompiler.mapper.check sizedLabel = .error (.unmappedField "size") := by
  have hnames : "" ∉ sizedLabel.root.names := by decide
  have hbuild : labelCompiler.build (documentBackend _) sizedLabel =
      .error (.unmappedField "size") := rfl
  obtain ⟨hcheck, -, hdocument⟩ := (check_agrees labelCompiler _ sizedLabel hnames).2 "size"
  exact ⟨hnames, hbuild, hcheck hdocument hbuild⟩

/-- Compiles filters for a store without any field, which it reports for each test. -/
def storeBackend (ι : Type) : Backend ι Unit where
  name := "store"
  and := fun _ _ => ()
  or := fun _ _ => ()
  always := ()
  never := ()
  leaf := fun target _ => .error (.unmappedField target.name)
  any := fun _ _ _ => .ok ()

/-- A field that the mapper has and the backend has not is reported by the compiler only. -/
theorem check_disagrees_storeBackend :
    "" ∉ (labelIs "a").names ∧
      labelCompiler.build (storeBackend _) ⟨labelIs "a", []⟩ = .error (.unmappedField "label") ∧
      labelCompiler.mapper.check ⟨labelIs "a", []⟩ = .ok () :=
  ⟨by decide, rfl, rfl⟩

end Compiler

end FilterQuery
