import FilterQuery.Proofs.RoundTrip
import FilterQuery.Proofs.SharedElements

/-!
# Which filters are compiled

A text becomes a predicate iff it is read without diagnostics, its fields are exactly the left
operands of its comparisons, and each of them can be looked up. Neither literals nor operators can
be in the way: a literal that does not fit makes a condition that never holds, and an operator that
was found in the text is found again among the custom operators.

`Decides x P` says that a computation succeeds if `P` holds, and fails on a misuse of a field
otherwise. Every step of the compiler decides a part of what is asked of the filter.

## Key results

- `exists_condition_of_isKnown`: an operator that is known always gives a condition
- `decides_expr`: a well-formed filter is compiled iff its fields are compared and can be looked up
- `compile_succeeds_iff`: the texts that are compiled, and what is wrong with the others
-/

namespace FilterQuery

variable {ι : Type}

/-! ## Where fields stand. -/

/-- A node of an expression. -/
structure Node where
  expr : Expr
  /-- Whether it is the left operand of a comparison. -/
  compared : Bool

/-- The nodes of an expression, which itself is the left operand of a comparison or not. -/
def Expr.nodes (compared : Bool) (e : Expr) : List Node :=
  ⟨e, compared⟩ ::
    match e with
    | .logical left _ right => left.nodes false ++ right.nodes false
    | .comparison left _ right => left.nodes true ++ right.nodes false
    | .group inner => inner.nodes false
    | .field _ _ => []
    | .value _ _ => []

theorem Expr.mem_nodes (compared : Bool) (e : Expr) : ⟨e, compared⟩ ∈ e.nodes compared := by
  cases e <;> simp [Expr.nodes]

/-- Whether the expression is a field. -/
def Expr.isField : Expr → Bool
  | .field _ _ => true
  | _ => false

namespace Mapper

/-- Whether a field can be looked up: it is there, and it takes an index if one is given and only
then, or it is not there and such fields are to be ignored. -/
def Resolves (m : Mapper ι) (name : String) (index : Option String) : Prop :=
  match m.find? name with
  | some map => index.isSome = map.isParametrized
  | none => m.config.ignoreUnmappedFields = true

/-- Whether the fields of an expression are exactly the left operands of its comparisons, and each
of them can be looked up. -/
structure Admits (m : Mapper ι) (e : Expr) : Prop where
  compared : ∀ node ∈ e.nodes false, node.expr.isField = true ↔ node.compared = true
  resolved : ∀ node ∈ e.nodes false, ∀ name index op right,
    node.expr = .comparison (.field name index) op right → m.Resolves name index

variable {m : Mapper ι}

theorem admits_group {inner : Expr} : m.Admits (.group inner) ↔ m.Admits inner := by
  constructor
  · intro h
    exact ⟨fun node hnode => h.compared node (List.mem_cons_of_mem _ hnode),
      fun node hnode => h.resolved node (List.mem_cons_of_mem _ hnode)⟩
  · intro h
    refine ⟨List.forall_mem_cons.2 ⟨by simp [Expr.isField], h.compared⟩,
      List.forall_mem_cons.2 ⟨?_, h.resolved⟩⟩
    rintro name index op right ⟨⟩

theorem admits_logical {left right : Expr} {conjunction : Conjunction} :
    m.Admits (.logical left conjunction right) ↔ m.Admits left ∧ m.Admits right := by
  constructor
  · intro h
    obtain ⟨hleft, hright⟩ := List.forall_mem_append.1 (List.forall_mem_cons.1 h.compared).2
    obtain ⟨hleft', hright'⟩ := List.forall_mem_append.1 (List.forall_mem_cons.1 h.resolved).2
    exact ⟨⟨hleft, hleft'⟩, hright, hright'⟩
  · rintro ⟨hleft, hright⟩
    refine ⟨List.forall_mem_cons.2 ⟨by simp [Expr.isField],
        List.forall_mem_append.2 ⟨hleft.compared, hright.compared⟩⟩,
      List.forall_mem_cons.2 ⟨?_, List.forall_mem_append.2 ⟨hleft.resolved, hright.resolved⟩⟩⟩
    rintro name index op right ⟨⟩

theorem not_admits_field (name : String) (index : Option String) :
    ¬m.Admits (.field name index) := by
  intro h
  have hfield := h.compared ⟨.field name index, false⟩ (by simp [Expr.nodes])
  simp [Expr.isField] at hfield

/-- The left operand of a comparison has to be a field. -/
theorem not_admits_of_isField_eq_false {left right : Expr} {op : Operator}
    (h : left.isField = false) : ¬m.Admits (.comparison left op right) := by
  intro hadmits
  have hmem : ⟨left, true⟩ ∈ (Expr.comparison left op right).nodes false :=
    List.mem_cons_of_mem _ (List.mem_append_left _ (left.mem_nodes true))
  have hfield := hadmits.compared ⟨left, true⟩ hmem
  simp [h] at hfield

theorem admits_comparison {name raw : String} {index : Option String} {op : Operator}
    {ignoreCase : Bool} :
    m.Admits (.comparison (.field name index) op (.value raw ignoreCase)) ↔
      m.Resolves name index := by
  constructor
  · intro h
    exact h.resolved _ (List.mem_cons_self ..) name index op _ rfl
  · intro h
    refine ⟨by simp [Expr.nodes, Expr.isField], fun node hnode name' index' op' right' heq => ?_⟩
    simp only [Expr.nodes, List.cons_append, List.nil_append, List.mem_cons, List.not_mem_nil,
      or_false] at hnode
    rcases hnode with rfl | rfl | rfl
    · cases heq
      exact h
    · cases heq
    · cases heq

end Mapper

/-! ## Computations that decide a condition. -/

/-- Whether the error is one in the use of a field: the field is not there, or the expression around
it is not of the right shape. -/
def FilterError.IsMisuse (error : FilterError) : Prop :=
  (∃ name, error = .unmappedField name) ∨ ∃ problem, error = .invalidShape problem

/-- The computation succeeds if the condition holds, and fails on a misuse of a field otherwise. -/
def Decides {α : Type} (x : Except FilterError α) (P : Prop) : Prop :=
  (∃ a, x = .ok a ∧ P) ∨ ∃ error, x = .error error ∧ error.IsMisuse ∧ ¬P

namespace Decides

variable {α β : Type} {x : Except FilterError α} {P Q : Prop}

theorem iff (h : Decides x P) : (∃ a, x = .ok a) ↔ P := by
  rcases h with ⟨a, rfl, hP⟩ | ⟨error, rfl, -, hP⟩
  · exact ⟨fun _ => hP, fun _ => ⟨a, rfl⟩⟩
  · exact ⟨nofun, fun h => absurd h hP⟩

theorem isMisuse (h : Decides x P) {error : FilterError} (herror : x = .error error) :
    error.IsMisuse := by
  rcases h with ⟨a, rfl, -⟩ | ⟨other, rfl, hmisuse, -⟩
  · cases herror
  · cases herror
    exact hmisuse

theorem congr (h : Decides x P) (hPQ : P ↔ Q) : Decides x Q := by
  rwa [Decides, hPQ] at h

/-- One computation after another decides both conditions. -/
theorem bind {f : α → Except FilterError β} (hx : Decides x P)
    (hf : ∀ a, x = .ok a → Decides (f a) Q) : Decides (x >>= f) (P ∧ Q) := by
  rcases hx with ⟨a, rfl, hP⟩ | ⟨error, rfl, hmisuse, hP⟩
  · rcases hf a rfl with ⟨b, hb, hQ⟩ | ⟨error, hb, hmisuse, hQ⟩
    · exact .inl ⟨b, hb, hP, hQ⟩
    · exact .inr ⟨error, hb, hmisuse, fun h => hQ h.2⟩
  · exact .inr ⟨error, rfl, hmisuse, fun h => hP h.1⟩

/-- What always succeeds decides nothing more. -/
theorem bind_ok {f : α → Except FilterError β} (hx : Decides x P) (hf : ∀ a, ∃ b, f a = .ok b) :
    Decides (x >>= f) P := by
  have hboth := hx.bind (Q := True) fun a _ => .inl ((hf a).imp fun b hb => ⟨hb, trivial⟩)
  exact hboth.congr ⟨fun h => h.1, fun h => ⟨h, trivial⟩⟩

end Decides

theorem FieldMap.decides_accessors (map : FieldMap ι) (index : Option String) :
    Decides (map.accessors index) (index.isSome = map.isParametrized) := by
  unfold FieldMap.accessors FieldMap.isParametrized
  cases map.mapping <;> cases index
  all_goals first
    | exact .inl ⟨_, rfl, rfl⟩
    | exact .inr ⟨_, rfl, .inr ⟨_, rfl⟩, by simp⟩

/-! ## Steps that never fail. -/

/-- A name of a custom operator is the name of one. -/
theorem OperatorRegistry.exists_find? {operators : OperatorRegistry} {name : String}
    (h : name ∈ operators.names) : ∃ operator, operators.find? name = some operator := by
  obtain ⟨operator, hoperator, hname⟩ := List.mem_map.1 h
  exact Option.isSome_iff_exists.1 (List.find?_isSome.2 ⟨operator, hoperator, by simp [hname]⟩)

namespace Compiler

variable {c : Compiler ι}

/-- An operator that is known always gives a condition, whatever the literal. -/
theorem exists_condition_of_isKnown {op : Operator} (hop : op.IsKnown c.operators.names)
    (map : FieldMap ι) (accessor : Accessor ι) (name raw : String) (ignoreCase : Bool) :
    ∃ condition, Condition.of c.mapper.config c.operators map accessor name op raw ignoreCase =
      .ok condition := by
  by_cases hcustom : ∃ symbol, op = .custom symbol
  · obtain ⟨symbol, rfl⟩ := hcustom
    have hname : symbol ∈ c.operators.names := by
      rcases hop with hbuiltin | ⟨other, hother, heq⟩
      · simp [Operator.builtin] at hbuiltin
      · cases heq
        exact hother
    obtain ⟨operator, hfind⟩ := OperatorRegistry.exists_find? hname
    exact ⟨.test (.custom operator raw), by simp [Condition.of, hfind]⟩
  · exact ⟨_, condition_of_builtin (q := ⟨name, none, op, raw, ignoreCase⟩)
      (not_exists.1 hcustom)⟩

theorem exists_accessorPart {op : Operator} (hop : op.IsKnown c.operators.names)
    (map : FieldMap ι) (name : String) (index : Option String) (raw : String) (ignoreCase : Bool)
    (accessor : Accessor ι) :
    ∃ p, c.accessorPart (predicateBackend ι) map name index op raw ignoreCase accessor =
      .ok p := by
  obtain ⟨condition, hcondition⟩ :=
    exists_condition_of_isKnown hop map accessor name raw ignoreCase
  obtain ⟨part, hpart, -⟩ := exists_alongChain
    (fun read => ⟨name, accessor.path.getD name, accessor.kind, accessor.nullable, index, read⟩)
    (fun _ => rfl) condition accessor.chain
  cases condition with
  | never unfit => exact ⟨_, bind_eq_ok.2 ⟨_, hcondition, rfl⟩⟩
  | _ => exact ⟨_, bind_eq_ok.2 ⟨_, hcondition, bind_eq_ok.2 ⟨part, hpart, rfl⟩⟩⟩

/-! ## What the compiler decides. -/

/-- A comparison is compiled iff its field can be looked up. -/
theorem decides_comparison {op : Operator} (hop : op.IsKnown c.operators.names) (name : String)
    (index : Option String) (raw : String) (ignoreCase : Bool) :
    Decides (c.comparison (predicateBackend ι) name index op raw ignoreCase)
      (c.mapper.Resolves name index) := by
  unfold comparison Mapper.Resolves
  cases c.mapper.find? name with
  | none =>
    by_cases hignore : c.mapper.config.ignoreUnmappedFields = true
    · exact .inl ⟨_, if_pos hignore, hignore⟩
    · exact .inr ⟨_, if_neg hignore, .inl ⟨name, rfl⟩, hignore⟩
  | some map =>
    refine (map.decides_accessors index).bind_ok fun (first, rest) => ?_
    -- All that can go wrong has been decided with the accessors.
    have hpart := c.exists_accessorPart hop map name index raw ignoreCase
    obtain ⟨p, hp⟩ := hpart first
    obtain ⟨ps, hps⟩ := exists_mapM rest fun accessor _ => hpart accessor
    obtain ⟨part, hjoin⟩ := c.exists_anyPart p.1 (ps.map (·.1))
    exact ⟨_, bind_eq_ok.2 ⟨p, hp, bind_eq_ok.2 ⟨ps, hps, bind_eq_ok.2 ⟨part, hjoin, rfl⟩⟩⟩⟩

/-- A well-formed filter is compiled iff its fields are the left operands of its comparisons and can
be looked up. -/
theorem decides_expr {phrase : Phrase} {e : Expr} (h : WellFormed c.operators.names phrase e)
    (grouped : Bool) :
    Decides (c.expr (predicateBackend ι) grouped e) (c.mapper.Admits e) := by
  induction h generalizing grouped with
  | field => exact .inr ⟨_, rfl, .inr ⟨_, rfl⟩, Mapper.not_admits_field _ _⟩
  | group _ ih => exact (ih true).congr Mapper.admits_group.symm
  | primary _ ih => exact ih grouped
  | @comparison left op raw ignoreCase hleft _ hop _ =>
    cases left with
    | field name index =>
      exact (c.decides_comparison hop name index raw ignoreCase).congr
        Mapper.admits_comparison.symm
    | _ => exact .inr ⟨_, rfl, .inr ⟨_, rfl⟩, Mapper.not_admits_of_isField_eq_false rfl⟩
  | operand _ ih => exact ih grouped
  | @logical left right conjunction _ _ ihl ihr =>
    refine ((ihl grouped).bind fun l _ => (ihr grouped).bind_ok fun r => ?_).congr
      Mapper.admits_logical.symm
    obtain ⟨part, hjoin, -⟩ := c.exists_combine conjunction grouped l.1 r.1
    exact ⟨_, bind_eq_ok.2 ⟨part, hjoin, rfl⟩⟩

/-- Without validation of its literals, a valid filter is compiled iff its expression is. -/
theorem decides_build {tree : FilterTree} (hvalid : tree.isValid = true)
    (hvalidate : c.validateValues = false) {P : Prop}
    (h : Decides (c.expr (predicateBackend ι) false tree.root) P) :
    Decides (c.build (predicateBackend ι) tree) P := by
  have hbuild : c.build (predicateBackend ι) tree =
      c.expr (predicateBackend ι) false tree.root >>= fun p =>
        c.finish (predicateBackend ι) p.1 := by
    simp only [build, hvalid, hvalidate, Bool.not_true, Bool.false_eq_true, if_false,
      Bool.false_and, bind_pure]
  rw [hbuild]
  exact h.bind_ok fun p => (c.exists_finish p.1).imp fun built hbuilt => hbuilt.1

end Compiler

/-- The tree that is read from a text without diagnostics is well-formed. -/
theorem wellFormed_of_isValid {customs : List String} {text : String}
    (h : (parse customs text).isValid = true) :
    WellFormed customs .filter (parse customs text).root := by
  have hdiagnostics : (parse customs text).diagnostics = [] := List.isEmpty_iff.1 h
  have hparse : parse customs text = ⟨(parse customs text).root, []⟩ := by rw [← hdiagnostics]
  exact wellFormed_of_derives (parse_eq_iff.1 hparse).2 (by decide) (sentence_fits _ _)
    (isChain_sentence _ _)

/-- A text is compiled to a predicate iff it is blank or it is read without diagnostics, exactly the
left operands of its comparisons are fields, and these can be looked up. What is wrong otherwise is
how the text is written or how it uses fields, never an operator or a literal. -/
theorem compile_succeeds_iff (m : Mapper ι) (text : String) :
    ((∃ filter, ({ mapper := m } : Compiler ι).compile text = .ok filter) ↔
      text.toList.all Text.isBlank = true ∨
        ((parse m.operators.names text).isValid = true ∧
          m.Admits (parse m.operators.names text).root)) ∧
    ∀ error, ({ mapper := m } : Compiler ι).compile text = .error error →
      (∃ diagnostics, error = .invalidFilter diagnostics) ∨ error.IsMisuse := by
  let c : Compiler ι := { mapper := m }
  let tree := parse m.operators.names text
  have hcompile : c.compile text = if text.toList.all Text.isBlank = true then
      .ok ⟨(predicateBackend ι).always, false⟩ else c.build (predicateBackend ι) tree := rfl
  by_cases hblank : text.toList.all Text.isBlank = true
  · rw [if_pos hblank] at hcompile
    exact ⟨⟨fun _ => .inl hblank, fun _ => ⟨_, hcompile⟩⟩,
      fun error herror => nomatch hcompile.symm.trans herror⟩
  · rw [if_neg hblank] at hcompile
    show ((∃ filter, c.compile text = .ok filter) ↔ _) ∧ ∀ error, c.compile text = .error error → _
    rw [hcompile]
    by_cases hvalid : tree.isValid = true
    · have hexpr := c.decides_expr (wellFormed_of_isValid hvalid) false
      have hbuild : Decides (c.build (predicateBackend ι) tree) (m.Admits tree.root) :=
        c.decides_build hvalid rfl hexpr
      refine ⟨?_, fun error herror => .inr (hbuild.isMisuse herror)⟩
      rw [hbuild.iff]
      exact ⟨fun hadmits => .inr ⟨hvalid, hadmits⟩, fun h => (h.resolve_left hblank).2⟩
    -- A text with diagnostics is not compiled at all.
    · have hbuild : c.build (predicateBackend ι) tree =
          .error (.invalidFilter tree.diagnostics) := by
        have hnot : (!tree.isValid) = true := by simpa using hvalid
        rw [Compiler.build, if_pos hnot]
        rfl
      rw [hbuild]
      refine ⟨⟨nofun, fun h => absurd (h.resolve_left hblank).1 hvalid⟩, fun error herror => ?_⟩
      cases herror
      exact .inl ⟨_, rfl⟩

end FilterQuery
