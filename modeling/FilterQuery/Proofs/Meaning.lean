import FilterQuery.Compile.Predicate
import FilterQuery.Proofs.Compilation
import FilterQuery.Proofs.ZeroValues

/-!
# The meaning of filters

`c.Means e item` is what an expression says of an item: a comparison has a quantifier of its own,
over the accessors of the field and the values that they reach, and conjunctions join what is said
on either side. `part.Holds item` is what a part of a predicate under construction says of it.

## Key results

- `accepts_of_condition`: a condition accepts the values that satisfy the comparison
- `holds_comparison`: a comparison is compiled to a part with its meaning
-/

namespace FilterQuery

variable {ι : Type}

/-! ## What expressions say of items. -/

/-- A comparison of a field with a literal. -/
structure Comparison where
  name : String
  index : Option String
  op : Operator
  raw : String
  ignoreCase : Bool

namespace Comparison

/-- Whether the comparison asks for equality or its negation. -/
def isEquality (q : Comparison) : Bool := q.op == .equal || q.op == .notEqual

/-- Whether the comparison is one with nothing. -/
def isBare (q : Comparison) : Bool := q.isEquality && q.raw == ""

/-- Whether the comparison is one with the keyword for missing values. -/
def isWithKeyword (q : Comparison) (config : MapperConfig) : Bool :=
  q.isEquality && config.allowNullKeyword && !q.ignoreCase && q.raw == "null"

/-- Whether upper and lower case are the same for the comparison of a field of the kind. -/
def ignoresCase (q : Comparison) (config : MapperConfig) (kind : FieldKind) : Bool :=
  kind == .string && (q.ignoreCase || config.caseInsensitiveFiltering)

/-- The field that the comparison tests for an accessor, given how its value is read. -/
def target (q : Comparison) (accessor : Accessor ι) (read : ι → Value) : Target ι where
  name := q.name
  path := accessor.path.getD q.name
  kind := accessor.kind
  nullable := accessor.nullable
  index := q.index
  read := read

end Comparison

/-- The comparisons of fields with values in an expression, from left to right. -/
def Expr.comparisons : Expr → List Comparison
  | .logical left _ right => left.comparisons ++ right.comparisons
  | .group inner => inner.comparisons
  | .comparison (.field name index) op (.value raw ignoreCase) =>
    [⟨name, index, op, raw, ignoreCase⟩]
  | _ => []

/-- Whether the accessor is one of those for a use of the field with the given index. -/
def FieldMap.Offers (map : FieldMap ι) (index : Option String) (accessor : Accessor ι) : Prop :=
  match map.mapping, index with
  | .single only, none => accessor = only
  | .composite first rest, none => accessor ∈ first :: rest
  | .parametrized ofKey, some key => accessor = ofKey key
  | _, _ => False

/-- What the comparison of a field with nothing asks of a value: for a nullable field, to be missing
or a zero of the kind of the field, or to be neither; for another field, to be a zero or not. -/
def SatisfiesBare (op : Operator) (kind : FieldKind) (nullable : Bool) (v : Value) : Prop :=
  if op = .equal then (nullable = true ∧ v.isAbsent = true) ∨ v.IsZero kind
  else ¬(nullable = true ∧ v.isAbsent = true) ∧ ¬v.IsZero kind

/-- What a conjunction makes of two statements. -/
def Conjunction.Joins : Conjunction → Prop → Prop → Prop
  | .and, p, q => p ∧ q
  | .or, p, q => p ∨ q

namespace Compiler

/-- What a comparison asks of a value that the accessor reads. -/
def Satisfies (c : Compiler ι) (map : FieldMap ι) (accessor : Accessor ι) (q : Comparison)
    (v : Value) : Prop :=
  match q.op with
  | .custom symbol =>
    ∃ operator, c.operators.find? symbol = some operator ∧ operator.predicate v q.raw = true
  | op =>
    if q.isBare then SatisfiesBare op accessor.kind accessor.nullable v
    else if q.isWithKeyword c.mapper.config then op = .equal ↔ v.isAbsent = true
    else
      ∃ literal,
        Condition.literal? c.mapper.config map.convertor accessor.kind op q.raw = some literal ∧
          (Test.compare op literal (q.ignoresCase c.mapper.config accessor.kind)).accepts v = true

/-- What a comparison says of an item: some accessor of the field reaches a value that satisfies it.
It says nothing if there is no such field and such fields are to be ignored. -/
def MeansComparison (c : Compiler ι) (q : Comparison) (item : ι) : Prop :=
  match c.mapper.find? q.name with
  | none => c.mapper.config.ignoreUnmappedFields = true
  | some map =>
    ∃ accessor, map.Offers q.index accessor ∧
      ∃ v ∈ accessor.chain.reach item, c.Satisfies map accessor q v

/-- What an expression says of an item. -/
def Means (c : Compiler ι) : Expr → ι → Prop
  | .group inner, item => c.Means inner item
  | .logical left conjunction right, item =>
    conjunction.Joins (c.Means left item) (c.Means right item)
  | .comparison (.field name index) op (.value raw ignoreCase), item =>
    c.MeansComparison ⟨name, index, op, raw, ignoreCase⟩ item
  | _, _ => False

end Compiler

/-! ## What parts say of items. -/

/-- The elements that a collection has in an item. -/
def Collection.members (collection : Collection ι) (item : ι) : List ι :=
  (collection.elements item).getD []

/-- What a part of a predicate says of an item. -/
def Part.Holds : Part ι (ι → Bool) → ι → Prop
  | .closed built, item => built.query item = true
  | .nested collection inner, item => ∃ element ∈ collection.members item, inner.Holds element

/-- Whether the value satisfies the condition. -/
def Condition.accepts : Condition → Value → Bool
  | .test only, v => only.accepts v
  | .either first second, v => first.accepts v || second.accepts v
  | .both first second, v => first.accepts v && second.accepts v
  | .never _, _ => false

namespace Compiler

variable {c : Compiler ι}

theorem exists_finish (part : Part ι (ι → Bool)) :
    ∃ built, c.finish (predicateBackend ι) part = .ok built ∧
      ∀ item, built.query item = true ↔ part.Holds item := by
  induction part with
  | closed built => exact ⟨built, rfl, fun item => .rfl⟩
  | nested collection inner ih =>
    obtain ⟨built, hbuilt, hholds⟩ := ih
    refine ⟨_, bind_eq_ok.2 ⟨built, hbuilt, rfl⟩, fun item => ?_⟩
    simp only [List.any_eq_true, hholds]
    rfl

theorem holds_finish {part : Part ι (ι → Bool)} {built : Built (ι → Bool)}
    (h : c.finish (predicateBackend ι) part = .ok built) (item : ι) :
    built.query item = true ↔ part.Holds item := by
  obtain ⟨built', hbuilt, hholds⟩ := c.exists_finish part
  cases hbuilt.symm.trans h
  exact hholds item

theorem exists_joinFinished (conjunction : Conjunction) (left right : Part ι (ι → Bool)) :
    ∃ built, c.joinFinished (predicateBackend ι) conjunction left right = .ok (.closed built) ∧
      ∀ item, built.query item = true ↔
        conjunction.Joins (left.Holds item) (right.Holds item) := by
  obtain ⟨l, hl, hleft⟩ := c.exists_finish left
  obtain ⟨r, hr, hright⟩ := c.exists_finish right
  refine ⟨_, bind_eq_ok.2 ⟨l, hl, bind_eq_ok.2 ⟨r, hr, rfl⟩⟩, fun item => ?_⟩
  rw [← hleft, ← hright]
  cases conjunction with
  | and => exact Bool.and_eq_true_iff
  | or => exact Bool.or_eq_true_iff

theorem leaf_predicate (target : Target ι) (condition : Condition) :
    leaf (predicateBackend ι) target condition =
      .ok fun item => condition.accepts (target.read item) := by
  cases condition <;> rfl

/-- Along a chain, some value that is reached is to satisfy the condition. -/
theorem holds_alongChain {target : (ι → Value) → Target ι}
    (htarget : ∀ read, (target read).read = read) {condition : Condition} {chain : Chain ι}
    {part : Part ι (ι → Bool)}
    (h : alongChain (predicateBackend ι) target condition chain = .ok part) (item : ι) :
    part.Holds item ↔ ∃ v ∈ chain.reach item, condition.accepts v = true := by
  induction chain generalizing part item with
  | value read =>
    rw [alongChain, leaf_predicate] at h
    cases h
    simp [Part.Holds, Chain.reach, htarget]
  | each path elements inner ih =>
    obtain ⟨part, hpart, h⟩ := bind_eq_ok.1 h
    cases h
    simp only [Part.Holds, Chain.reach, List.mem_flatMap, ih hpart]
    -- The element that reaches the value moves in front of it, or behind.
    constructor
    · rintro ⟨element, helement, v, hv, h⟩
      exact ⟨v, ⟨element, helement, hv⟩, h⟩
    · rintro ⟨v, ⟨element, helement, hv⟩, h⟩
      exact ⟨element, helement, v, hv, h⟩

theorem accepts_ofEmpty {op : Operator} (hop : op = .equal ∨ op = .notEqual) (kind : FieldKind)
    (nullable : Bool) (v : Value) :
    (Condition.ofEmpty op kind nullable).accepts v = true ↔ SatisfiesBare op kind nullable v := by
  have hnegated : (Test.compare .notEqual (.zero kind) false).accepts v =
      !(Test.compare .equal (.zero kind) false).accepts v :=
    Test.accepts_compare_negated rfl v (.zero kind) false
  have hnull : ∀ negated, (Test.null negated).accepts v = (v.isAbsent != negated) := fun _ => rfl
  rw [SatisfiesBare, ← Test.accepts_zero_iff]
  rcases hop with rfl | rfl <;> cases nullable <;>
    simp [Condition.ofEmpty, Condition.accepts, hnull, hnegated]

theorem accepts_null {op : Operator} (hop : op = .equal ∨ op = .notEqual) (v : Value) :
    (Test.null (op == .notEqual)).accepts v = true ↔ (op = .equal ↔ v.isAbsent = true) := by
  have hne : (Operator.equal == Operator.notEqual) = false := by decide
  rcases hop with rfl | rfl <;> simp [Test.accepts, hne]

/-- A comparison with a built-in operator is one with nothing, one with the keyword for missing
values, or one with a literal, which may not fit. -/
theorem condition_of_builtin {map : FieldMap ι} {accessor : Accessor ι} {q : Comparison}
    (hop : ∀ symbol, q.op ≠ .custom symbol) :
    Condition.of c.mapper.config c.operators map accessor q.name q.op q.raw q.ignoreCase = .ok
      (if q.isBare then .ofEmpty q.op accessor.kind accessor.nullable
      else if q.isWithKeyword c.mapper.config then .test (.null (q.op == .notEqual))
      else
        match Condition.literal? c.mapper.config map.convertor accessor.kind q.op q.raw with
        | some literal =>
          .test (.compare q.op literal (q.ignoresCase c.mapper.config accessor.kind))
        | none =>
          .never ⟨q.name, q.raw, if map.convertor.isNone then some accessor.kind else none⟩) := by
  unfold Condition.of
  split
  · exact absurd ‹_› (hop _)
  · change (if q.isBare = true then _ else if q.isWithKeyword c.mapper.config = true then _
      else _) = _
    by_cases hbare : q.isBare = true
    · rw [if_pos hbare, if_pos hbare]
    · rw [if_neg hbare, if_neg hbare]
      by_cases hkeyword : q.isWithKeyword c.mapper.config = true
      · rw [if_pos hkeyword, if_pos hkeyword]
      · rw [if_neg hkeyword, if_neg hkeyword]
        cases Condition.literal? c.mapper.config map.convertor accessor.kind q.op q.raw <;> rfl

theorem satisfies_builtin_iff {map : FieldMap ι} {accessor : Accessor ι} {q : Comparison}
    (hop : ∀ symbol, q.op ≠ .custom symbol) {v : Value} :
    c.Satisfies map accessor q v ↔
      if q.isBare then SatisfiesBare q.op accessor.kind accessor.nullable v
      else if q.isWithKeyword c.mapper.config then (q.op = .equal ↔ v.isAbsent = true)
      else ∃ literal,
        Condition.literal? c.mapper.config map.convertor accessor.kind q.op q.raw = some literal ∧
          (Test.compare q.op literal (q.ignoresCase c.mapper.config accessor.kind)).accepts v =
            true := by
  unfold Satisfies
  split
  · exact absurd ‹_› (hop _)
  · rfl

/-- A condition accepts the values that satisfy the comparison it was made from. -/
theorem accepts_of_condition {map : FieldMap ι} {accessor : Accessor ι} {q : Comparison}
    {condition : Condition}
    (h : Condition.of c.mapper.config c.operators map accessor q.name q.op q.raw q.ignoreCase =
      .ok condition) (v : Value) :
    condition.accepts v = true ↔ c.Satisfies map accessor q v := by
  by_cases hcustom : ∃ symbol, q.op = .custom symbol
  · obtain ⟨symbol, hop⟩ := hcustom
    simp only [Condition.of, hop] at h
    simp only [Satisfies, hop]
    cases hfind : c.operators.find? symbol with
    | none => simp [hfind] at h
    | some operator =>
      simp only [hfind, Except.ok.injEq] at h
      subst h
      simp [Condition.accepts, Test.accepts]
  · have hop : ∀ symbol, q.op ≠ .custom symbol := not_exists.1 hcustom
    have hequality : q.isEquality = true → q.op = .equal ∨ q.op = .notEqual := by
      simp [Comparison.isEquality]
    rw [condition_of_builtin hop] at h
    rw [satisfies_builtin_iff hop]
    cases h
    by_cases hbare : q.isBare = true
    · rw [if_pos hbare, if_pos hbare]
      exact accepts_ofEmpty (hequality (Bool.and_eq_true_iff.1 hbare).1) _ _ _
    · rw [if_neg hbare, if_neg hbare]
      by_cases hkeyword : q.isWithKeyword c.mapper.config = true
      · rw [if_pos hkeyword, if_pos hkeyword]
        simp only [Comparison.isWithKeyword, Bool.and_eq_true] at hkeyword
        exact accepts_null (hequality hkeyword.1.1.1) v
      · rw [if_neg hkeyword, if_neg hkeyword]
        cases Condition.literal? c.mapper.config map.convertor accessor.kind q.op q.raw with
        | some literal => simp only [Condition.accepts, Option.some.injEq, exists_eq_left']
        | none => simp [Condition.accepts]

/-- The part for an accessor says that it reaches a value that satisfies the comparison. -/
theorem holds_accessorPart {map : FieldMap ι} {accessor : Accessor ι} {q : Comparison}
    {p : Part ι (ι → Bool) × Option UnfitValue}
    (h : c.accessorPart (predicateBackend ι) map q.name q.index q.op q.raw q.ignoreCase accessor =
      .ok p) (item : ι) :
    p.1.Holds item ↔ ∃ v ∈ accessor.chain.reach item, c.Satisfies map accessor q v := by
  obtain ⟨condition, hcondition, h⟩ := bind_eq_ok.1 h
  simp only [← accepts_of_condition hcondition]
  split at h
  -- A literal that does not fit is not taken along the chain, and no value satisfies it.
  · cases h
    simp [Part.Holds, predicateBackend, Condition.accepts]
  · obtain ⟨part, hpart, h⟩ := bind_eq_ok.1 h
    cases h
    exact holds_alongChain (fun _ => rfl) hpart item

theorem exists_mem_congr {α β : Type} {P : α → Prop} {R : β → Prop} {as : List α} {bs : List β}
    (h : List.Forall₂ (fun a b => P a ↔ R b) as bs) : (∃ a ∈ as, P a) ↔ ∃ b ∈ bs, R b := by
  induction h with
  | nil => simp
  | cons hhead _ ih => simp [hhead, ih]

/-- The disjunction of finished queries, as the compiler builds it up. -/
theorem query_foldl_or (first : Built (ι → Bool)) (rest : List (Built (ι → Bool))) (item : ι) :
    (rest.foldl (fun l r => ⟨(predicateBackend ι).or l.query r.query, l.nested || r.nested⟩)
      first).query item = true ↔ ∃ built ∈ first :: rest, built.query item = true := by
  induction rest generalizing first with
  | nil => simp
  | cons next rest ih =>
    rw [List.foldl_cons, ih]
    simp [predicateBackend, or_assoc]

theorem exists_anyPart (first : Part ι (ι → Bool)) (rest : List (Part ι (ι → Bool))) :
    ∃ part, c.anyPart (predicateBackend ι) first rest = .ok part := by
  cases rest with
  | nil => exact ⟨first, rfl⟩
  | cons next rest =>
    obtain ⟨built, hbuilt, -⟩ := c.exists_finish first
    obtain ⟨builts, hbuilts⟩ := exists_mapM (next :: rest) fun part _ =>
      (c.exists_finish part).imp fun built h => h.1
    exact ⟨_, bind_eq_ok.2 ⟨built, hbuilt, bind_eq_ok.2 ⟨builts, hbuilts, rfl⟩⟩⟩

/-- Of several parts, some one is to hold. -/
theorem holds_anyPart {first part : Part ι (ι → Bool)} {rest : List (Part ι (ι → Bool))}
    (h : c.anyPart (predicateBackend ι) first rest = .ok part) (item : ι) :
    part.Holds item ↔ ∃ p ∈ first :: rest, p.Holds item := by
  cases rest with
  | nil =>
    cases h
    simp
  | cons next rest =>
    obtain ⟨built, hbuilt, h⟩ := bind_eq_ok.1 h
    obtain ⟨builts, hbuilts, h⟩ := bind_eq_ok.1 h
    cases h
    -- Each part is closed on its own, and its query says what it says.
    have hall : List.Forall₂ (fun p b => c.finish (predicateBackend ι) p = .ok b)
        (first :: next :: rest) (built :: builts) := .cons hbuilt (mapM_eq_ok.1 hbuilts)
    rw [Part.Holds, query_foldl_or]
    exact (exists_mem_congr (hall.imp fun p b hb => (holds_finish hb item).symm)).symm

/-- The accessors of a field that the compiler uses are those that the field offers. -/
theorem mem_accessors {map : FieldMap ι} {index : Option String} {first : Accessor ι}
    {rest : List (Accessor ι)} (h : map.accessors index = .ok (first, rest))
    (accessor : Accessor ι) : accessor ∈ first :: rest ↔ map.Offers index accessor := by
  unfold FieldMap.accessors at h
  unfold FieldMap.Offers
  split at h <;> cases h <;> simp [*]

/-- A comparison is compiled to a part with its meaning. -/
theorem holds_comparison {q : Comparison} {part : Part ι (ι → Bool)} {unfit : List UnfitValue}
    (h : c.comparison (predicateBackend ι) q.name q.index q.op q.raw q.ignoreCase =
      .ok (part, unfit)) (item : ι) : part.Holds item ↔ c.MeansComparison q item := by
  unfold MeansComparison
  cases hmap : c.mapper.find? q.name with
  | none =>
    simp only [comparison, hmap] at h
    split at h
    · rename_i hignore
      cases h
      simp [Part.Holds, predicateBackend, hignore]
    · cases h
  | some map =>
    obtain ⟨first, rest, p, ps, haccessors, hp, hps, hjoin, -⟩ := parts_of_comparison hmap h
    simp only [← mem_accessors haccessors]
    have hall : List.Forall₂ (fun accessor p => c.accessorPart (predicateBackend ι) map q.name
        q.index q.op q.raw q.ignoreCase accessor = .ok p) (first :: rest) (p :: ps) := .cons hp hps
    rw [holds_anyPart hjoin, ← List.map_cons (f := Prod.fst)]
    simp only [List.mem_map, exists_exists_and_eq_and]
    exact (exists_mem_congr (hall.imp fun accessor p hp => (holds_accessorPart hp item).symm)).symm

end Compiler

end FilterQuery
