import FilterQuery.Proofs.DocumentMeaning
import FilterQuery.Proofs.PrintedValues

/-!
# What documents tell of tests

The query for a positive comparison has the path of the field, the operator and the literal in its
JSON form, and these are read back from it. It does not tell the kind of the literal, nor which
number it is if that is not finite, and a range does not tell whether case is ignored. Two tests that
do not differ in that way and have the same query accept the same values.

## Key results

- `unescapePattern_escapePattern`: the text in a pattern is read back
- `trace?_positive`: the query for a positive comparison tells what it is made of
- `accepts_positive_congr`: discernible tests with the same query accept the same values
-/

namespace FilterQuery

/-- Whether the operator asks which of two values comes first. -/
def Operator.isOrder : Operator → Bool
  | greater | less | greaterEqual | lessEqual => true
  | _ => false

/-- Whether the value is no number that is infinite or not a number at all. -/
def Value.isFinite : Value → Bool
  | number (.double .nan) | number (.double (.infinite _)) => false
  | _ => true

namespace Document

/-! ## Reading queries. -/

/-- What the query for a positive comparison tells of it. -/
structure Trace where
  path : String
  op : Operator
  literal : Json
  ignoreCase : Bool

/-- What is to be told of a comparison: an operator on text has the text of the literal, and a range
does not tell whether case is ignored. -/
def Trace.of (path : String) (op : Operator) (literal : Value) (ignoreCase : Bool) : Trace where
  path := path
  op := op
  literal := if op.isText then .string (String.ofList (literalText literal)) else ofLiteral literal
  ignoreCase := ignoreCase && !op.isOrder

/-- The text at the beginning of a pattern, up to a star without a backslash, and the rest. -/
def unescapePattern : List Char → List Char × List Char
  | [] => ([], [])
  | c :: rest =>
    if c = '*' then ([], c :: rest)
    else if c = '\\' then
      match rest with
      | [] => ([c], [])
      | d :: rest => (d :: (unescapePattern rest).1, (unescapePattern rest).2)
    else (c :: (unescapePattern rest).1, (unescapePattern rest).2)

/-- The operator and the text that a pattern stands for. -/
def readPattern? : List Char → Option (Operator × List Char)
  | '*' :: rest =>
    match unescapePattern rest with
    | (text, []) => some (.endsWith, text)
    | (text, ['*']) => some (.contains, text)
    | _ => none
  | _ => none

/-- The operator that a bound of a range stands for. -/
def boundOperator? : String → Option Operator
  | "gt" => some .greater
  | "gte" => some .greaterEqual
  | "lt" => some .less
  | "lte" => some .lessEqual
  | _ => none

/-- What a query tells, if it is one for a positive comparison. -/
def trace? : Json → Option Trace
  | .object [("range", .object [(path, .object [(bound, literal)])])] =>
    (boundOperator? bound).map fun op => ⟨path, op, literal, false⟩
  | .object [("term", .object [(path, .object (("value", literal) :: options))])] =>
    some ⟨path, .equal, literal, !options.isEmpty⟩
  | .object [("prefix", .object [(path, .object (("value", literal) :: options))])] =>
    some ⟨path, .startsWith, literal, !options.isEmpty⟩
  | .object [("wildcard", .object [(path, .object (("value", .string pattern) :: options))])] =>
    (readPattern? pattern.toList).map fun (op, text) =>
      ⟨path, op, .string (String.ofList text), !options.isEmpty⟩
  | _ => none

/-- The text in a pattern is read back, if nothing or a star follows. -/
theorem unescapePattern_escapePattern (cs : List Char) {rest : List Char}
    (hrest : rest = [] ∨ rest = ['*']) :
    unescapePattern (escapePattern cs ++ rest) = (cs, rest) := by
  induction cs with
  | nil => rcases hrest with rfl | rfl <;> rfl
  | cons c cs ih =>
    rw [escapePattern, List.flatMap_cons, List.append_assoc]
    change unescapePattern (_ ++ (escapePattern cs ++ rest)) = _
    by_cases hspecial : (c == '*' || c == '?' || c == '\\') = true
    · rw [if_pos hspecial, List.cons_append, List.cons_append, List.nil_append, unescapePattern,
        if_neg (by decide), if_pos rfl]
      simp only [ih]
    · rw [if_neg hspecial, List.cons_append, List.nil_append, unescapePattern.eq_def]
      simp only [Bool.or_eq_true, beq_iff_eq, not_or] at hspecial
      simp only [if_neg hspecial.1.1, if_neg hspecial.2, ih]

theorem readPattern?_contains (text : List Char) :
    readPattern? ('*' :: escapePattern text ++ ['*']) = some (.contains, text) := by
  simp only [List.cons_append, readPattern?, unescapePattern_escapePattern text (.inr rfl)]

theorem readPattern?_endsWith (text : List Char) :
    readPattern? ('*' :: escapePattern text) = some (.endsWith, text) := by
  have hread := unescapePattern_escapePattern text (.inl rfl)
  rw [List.append_nil] at hread
  simp only [readPattern?, hread]

/-- The query for a positive comparison tells what it is made of. -/
theorem trace?_positive (path : String) {op : Operator} (hop : op ∈ Operator.builtin)
    (literal : Value) (ignoreCase : Bool) :
    trace? (positive path op.positive literal ignoreCase) =
      some (.of path op.positive literal ignoreCase) := by
  have hoptions : (if ignoreCase then [("case_insensitive", Json.bool true)] else []).isEmpty =
      !ignoreCase := by
    cases ignoreCase <;> rfl
  cases op with
  | custom name => simp [Operator.builtin] at hop
  | equal | notEqual =>
    simp [positive, Operator.positive, fieldQuery, single, trace?, Trace.of, Operator.isText,
      Operator.isOrder, hoptions]
  | greater | greaterEqual | less | lessEqual =>
    simp [positive, Operator.positive, range, single, trace?, boundOperator?, Trace.of,
      Operator.isText, Operator.isOrder]
  | startsWith | notStartsWith =>
    simp [positive, Operator.positive, fieldQuery, single, trace?, Trace.of, Operator.isText,
      Operator.isOrder, hoptions]
  | contains | notContains =>
    simp only [positive, Operator.positive, wildcard, fieldQuery, single, trace?,
      String.toList_ofList, readPattern?_contains]
    simp [Trace.of, Operator.isText, Operator.isOrder, hoptions]
  | endsWith | notEndsWith =>
    simp only [positive, Operator.positive, wildcard, fieldQuery, single, trace?,
      String.toList_ofList, readPattern?_endsWith]
    simp [Trace.of, Operator.isText, Operator.isOrder, hoptions]

end Document

/-! ## Literals with the same JSON form. -/

/-- Integers of either type compare with other numbers in the same way. -/
theorem Number.compare?_congr {a b : Number} {n : Int} (ha : a.toInt? = some n)
    (hb : b.toInt? = some n) (m : Number) : m.compare? a = m.compare? b := by
  unfold compare?
  rw [ha, hb, toDouble_of_toInt? ha, toDouble_of_toInt? hb]

namespace Value

/-- Whether two values that a document writes alike are taken for the same in comparisons: they are
the same, or they are finite and of one kind. -/
def Discernible (a b : Value) : Prop :=
  Document.ofLiteral a = Document.ofLiteral b → a = b ∨ a.kind? = b.kind? ∧ a.isFinite = true

theorem ofLiteral_integer {n : Number} {i : Int} (h : n.toInt? = some i) :
    Document.ofLiteral (number n) = .integer i := by
  cases n with
  | signed k =>
    cases h
    rfl
  | unsigned k =>
    cases h
    rfl
  | double x => cases h

theorem ofLiteral_double {x : Binary64} (h : (number (.double x)).isFinite = true) :
    Document.ofLiteral (number (.double x)) = .double x := by
  cases x with
  | nan => cases h
  | infinite negative => cases h
  | finite negative units hunits => rfl

theorem ofLiteral_double_ne_integer (x : Binary64) (i : Int) :
    Document.ofLiteral (number (.double x)) ≠ .integer i := by
  cases x <;> exact Json.noConfusion

/-- A finite number is written as a whole number or as a double, and as none of the other. -/
theorem compare?_eq_of_ofLiteral {a b : Number}
    (h : Document.ofLiteral (number a) = Document.ofLiteral (number b))
    (hfinite : (number a).isFinite = true) (m : Number) : m.compare? a = m.compare? b := by
  cases ha : a.toInt? with
  | some i =>
    rw [ofLiteral_integer ha] at h
    cases hb : b.toInt? with
    | some j =>
      rw [ofLiteral_integer hb] at h
      cases h
      exact Number.compare?_congr ha hb m
    | none =>
      cases b with
      | double y => exact absurd h.symm (ofLiteral_double_ne_integer y i)
      | _ => cases hb
  | none =>
    cases a with
    | double x =>
      cases hb : b.toInt? with
      | some j =>
        rw [ofLiteral_integer hb] at h
        exact absurd h (ofLiteral_double_ne_integer x j)
      | none =>
        cases b with
        | double y =>
          rw [ofLiteral_double hfinite] at h
          cases y with
          | finite negative units hunits =>
            cases h
            rfl
          | _ => cases h
        | _ => cases hb
    | _ => cases ha

/-- Discernible literals with one JSON form compare with other values in the same way. -/
theorem compareSet?_eq_of_ofLiteral {a b : Value} (hdiscernible : a.Discernible b)
    (h : Document.ofLiteral a = Document.ofLiteral b) (ignoreCase : Bool) (v : Value) :
    v.compareSet? ignoreCase a = v.compareSet? ignoreCase b := by
  rcases hdiscernible h with rfl | ⟨hkind, hfinite⟩
  · rfl
  -- The literals are of one kind, and within a kind the JSON form tells the literal.
  cases a with
  | string s =>
    cases b with
    | string t =>
      cases h
      rfl
    | _ => cases hkind
  | number m =>
    cases b with
    | number n =>
      cases v with
      | number k => exact compare?_eq_of_ofLiteral h hfinite k
      | _ => rfl
    | _ => cases hkind
  | bool p =>
    cases b with
    | bool q =>
      cases h
      rfl
    | _ => cases hkind
  | timestamp t =>
    cases b with
    | timestamp u =>
      have hprint : t.print = u.print := String.ofList_injective (Json.string.inj h)
      rw [Timestamp.print_injective hprint]
    | _ => cases hkind
  | uuid x =>
    cases b with
    | uuid y =>
      have hprint : x.print = y.print := String.ofList_injective (Json.string.inj h)
      rw [Uuid.print_injective hprint]
    | _ => cases hkind
  | absent =>
    cases b with
    | absent => rfl
    | _ => cases hkind

theorem print?_isSome (v : Value) : v.print?.isSome = !v.isAbsent := by
  cases v <;> rfl

/-- The text of a literal is told, unless it is one without a text. -/
theorem print?_eq_of_literalText {a b : Value} (habsent : a.isAbsent = b.isAbsent)
    (h : Document.literalText a = Document.literalText b) : a.print? = b.print? := by
  have hsome : a.print?.isSome = b.print?.isSome := by
    rw [print?_isSome, print?_isSome, habsent]
  unfold Document.literalText at h
  cases ha : a.print? with
  | none =>
    cases hb : b.print? with
    | none => rfl
    | some u => simp [ha, hb] at hsome
  | some t =>
    cases hb : b.print? with
    | none => simp [ha, hb] at hsome
    | some u =>
      rw [ha, hb] at h
      exact congrArg some h

/-- Only texts are compared differently if case is ignored. -/
theorem compareSet?_ignoreCase {a : Value} (h : a.kind? ≠ some .string) (ignoreCase other : Bool)
    (v : Value) : v.compareSet? ignoreCase a = v.compareSet? other a := by
  cases a with
  | string s => exact absurd rfl h
  | _ => cases v <;> rfl

end Value

/-! ## Tests with the same query. -/

/-- Whether the queries for two tests tell them apart as far as it matters. An operator on text needs
no more than that both literals have a text or none has, and otherwise the literals have to be
discernible; comparisons of order with texts are to agree on whether case is ignored. -/
def Test.Discernible : Test → Test → Prop
  | compare op a ignoreCase, compare other b ignoreCase' =>
    op.positive = other.positive →
      if op.isText then a.isAbsent = b.isAbsent
      else a.Discernible b ∧
        (op.isOrder = true → a.kind? = some .string → ignoreCase = ignoreCase')
  | _, _ => True

namespace Operator

theorem isOrder_positive (op : Operator) : op.positive.isOrder = op.isOrder := by
  cases op <;> rfl

end Operator

/-- Comparisons of which a document tells the same hold of the same values, if they are
discernible. -/
theorem holdsPositive_congr {op : Operator} {a b : Value} {ignoreCase ignoreCase' : Bool}
    {path path' : String}
    (htrace : Document.Trace.of path op a ignoreCase = .of path' op b ignoreCase')
    (hdiscernible : if op.isText then a.isAbsent = b.isAbsent
      else a.Discernible b ∧
        (op.isOrder = true → a.kind? = some .string → ignoreCase = ignoreCase')) (v : Value) :
    holdsPositive op v a ignoreCase = holdsPositive op v b ignoreCase' := by
  simp only [Document.Trace.of, Document.Trace.mk.injEq] at htrace
  obtain ⟨-, -, hliteral, hcase⟩ := htrace
  unfold holdsPositive
  cases hv : v.isAbsent with
  | true => rfl
  | false =>
    cases htext : op.isText with
    | true =>
      simp only [htext, if_true, Json.string.injEq] at hliteral hdiscernible
      -- An operator on text asks for no order, so the mark is told.
      have horder : op.isOrder = false := by
        cases op with
        | greater | less | greaterEqual | lessEqual => cases htext
        | _ => rfl
      have hprint := Value.print?_eq_of_literalText hdiscernible (String.ofList_injective hliteral)
      rw [horder, Bool.not_false, Bool.and_true, Bool.and_true] at hcase
      simp only [Bool.false_eq_true, if_false, if_true, hprint, hcase]
    | false =>
      simp only [htext, Bool.false_eq_true, if_false] at hliteral hdiscernible ⊢
      obtain ⟨hvalues, hmark⟩ := hdiscernible
      have hkinds : a.kind? = b.kind? := by
        rcases hvalues hliteral with rfl | hkind
        · rfl
        · exact hkind.1
      rw [Value.compareSet?_eq_of_ofLiteral hvalues hliteral]
      -- The mark is told, or it is of no account, or the comparisons agree on it.
      have hignore : v.compareSet? ignoreCase b = v.compareSet? ignoreCase' b := by
        cases horder : op.isOrder with
        | false =>
          rw [horder, Bool.not_false, Bool.and_true, Bool.and_true] at hcase
          rw [hcase]
        | true =>
          by_cases hkind : b.kind? = some .string
          · rw [hmark horder (hkinds.trans hkind)]
          · exact Value.compareSet?_ignoreCase hkind ignoreCase ignoreCase' v
      rw [hignore]

namespace Document

variable {ι : Type}

/-- The query for a positive test tells its path and, of a comparison, what it is made of. -/
theorem trace?_leaf_compare {target : Target ι} {op : Operator} (hop : op ∈ Operator.builtin)
    {literal : Value} {ignoreCase : Bool} {query : Json}
    (h : leaf target (.compare op.positive literal ignoreCase) = .ok query) :
    trace? query = some (.of target.path op.positive literal ignoreCase) := by
  unfold leaf at h
  cases hindex : target.index with
  | some index => simp [hindex] at h
  | none =>
    simp only [hindex, Operator.isNegated_positive, Bool.false_eq_true, if_false] at h
    cases h
    rw [← trace?_positive target.path hop literal ignoreCase]
    cases op <;> rfl

theorem eq_exists_of_leaf_null {target : Target ι} {query : Json}
    (h : leaf target (.null true) = .ok query) : query = exists? target.path := by
  unfold leaf at h
  cases hindex : target.index with
  | some index => simp [hindex] at h
  | none =>
    simp only [hindex] at h
    cases h
    rfl

/-- Discernible tests with the same query are tests of the same path and accept the same values. -/
theorem accepts_positive_congr {target target' : Target ι} {test other : Test}
    (hbuiltin : test.isBuiltin = true) (hbuiltin' : other.isBuiltin = true) {query : Json}
    (h : leaf target test.positive = .ok query) (h' : leaf target' other.positive = .ok query)
    (hdiscernible : target.path = target'.path → test.Discernible other) :
    target.path = target'.path ∧
      ∀ v, test.positive.accepts v = other.positive.accepts v := by
  cases test with
  | compare op a ignoreCase =>
    have htrace := trace?_leaf_compare (of_decide_eq_true hbuiltin) h
    cases other with
    | compare op' b ignoreCase' =>
      have htrace' := trace?_leaf_compare (of_decide_eq_true hbuiltin') h'
      have hsame := Option.some.inj (htrace.symm.trans htrace')
      have hpath : target.path = target'.path := congrArg Trace.path hsame
      have hop : op.positive = op'.positive := congrArg Trace.op hsame
      have hdiscernible := hdiscernible hpath hop
      rw [← hop] at hsame
      rw [← op.isText_positive, ← op.isOrder_positive] at hdiscernible
      refine ⟨hpath, fun v => ?_⟩
      simp only [Test.positive, Test.accepts, Operator.isNegated_positive, Bool.false_eq_true,
        if_false, ← hop]
      exact holdsPositive_congr hsame hdiscernible v
    | null negated =>
      rw [eq_exists_of_leaf_null h'] at htrace
      cases htrace
    | custom operator literal => cases hbuiltin'
  | null negated =>
    have hexists := eq_exists_of_leaf_null h
    cases other with
    | compare op' b ignoreCase' =>
      have htrace' := trace?_leaf_compare (of_decide_eq_true hbuiltin') h'
      rw [hexists] at htrace'
      cases htrace'
    | null negated' =>
      have hsame : exists? target.path = exists? target'.path :=
        hexists.symm.trans (eq_exists_of_leaf_null h')
      simp only [exists?, single, Json.object.injEq, List.cons.injEq, Prod.mk.injEq,
        Json.string.injEq] at hsame
      exact ⟨by simpa using hsame, fun _ => rfl⟩
    | custom operator literal => cases hbuiltin'
  | custom operator literal => cases hbuiltin

end Document

end FilterQuery
