import FilterQuery.Proofs.FilterAndSort
import FilterQuery.Proofs.Negation
import Mathlib.Algebra.Group.Int.Defs
import Mathlib.Algebra.Group.Nat.Defs

/-!
# Filters on integers are exact

An integer in decimal notation, with white space around it or without, is read as an integer of a
machine type as long as one of them can hold it. Integers of both types are compared as they are,
never as doubles, so that a filter on an integer field says of its literal what it says in numbers.

## Key results

- `readInteger_of_isNumeral`: what a numeral stands for is read from it
- `Value.exists_read?_of_denotes`: every integer of 64 bits is read as one
- `accepts_integer_iff`: a filter on integers relates them as the operator says
-/

namespace FilterQuery

/-! ## Numerals. -/

/-- The number that decimal digits stand for: each digit counts a power of ten. -/
def digitsValue : List Char → Nat
  | [] => 0
  | c :: rest => (c.toNat - '0'.toNat) * 10 ^ rest.length + digitsValue rest

/-- Whether a text is decimal digits, at least one of them. -/
def IsDigits (cs : List Char) : Prop := cs ≠ [] ∧ ∀ c ∈ cs, c.isDigit = true

/-- Whether a text is decimal digits with at most one sign in front, and stands for the integer. -/
inductive IsNumeral : List Char → Int → Prop
  | unsigned {digits : List Char} (h : IsDigits digits) : IsNumeral digits (digitsValue digits)
  | plus {digits : List Char} (h : IsDigits digits) : IsNumeral ('+' :: digits) (digitsValue digits)
  | minus {digits : List Char} (h : IsDigits digits) :
    IsNumeral ('-' :: digits) (-(digitsValue digits : Int))

/-- Whether a text stands for the integer: it is a numeral, with white space around it or
without. -/
inductive Denotes : List Char → Int → Prop
  | intro {lead numeral trail : List Char} {n : Int} (h : IsNumeral numeral n)
      (hlead : ∀ c ∈ lead, Text.isBlank c = true) (htrail : ∀ c ∈ trail, Text.isBlank c = true) :
      Denotes (lead ++ numeral ++ trail) n

theorem ofDigitChars_eq_digitsValue (cs : List Char) : Nat.ofDigitChars 10 cs 0 = digitsValue cs := by
  induction cs with
  | nil => rfl
  | cons c rest ih =>
    rw [Nat.ofDigitChars_cons, Nat.ofDigitChars_eq_ofDigitChars_zero, ih, digitsValue, Nat.mul_zero,
      Nat.zero_add, Nat.mul_comm]

theorem readDigits_of_isDigits {cs : List Char} (h : IsDigits cs) :
    readDigits cs = some (digitsValue cs) := by
  rw [readDigits, if_pos ⟨h.1, List.all_eq_true.2 h.2⟩, ofDigitChars_eq_digitsValue]

/-- Digits in front are no sign. -/
theorem takeSign_of_isDigits {cs : List Char} (h : IsDigits cs) : takeSign cs = (none, cs) := by
  cases cs with
  | nil => exact absurd rfl h.1
  | cons c rest =>
    have hdigit := h.2 c List.mem_cons_self
    unfold takeSign
    split
    · rename_i heq
      cases heq
      exact absurd hdigit (by decide)
    · rename_i heq
      cases heq
      exact absurd hdigit (by decide)
    · rfl

/-- A numeral is read as the integer it stands for. -/
theorem readInteger_of_isNumeral {cs : List Char} {n : Int} (h : IsNumeral cs n) :
    readInteger cs = some n := by
  cases h with
  | unsigned h => simp [readInteger, takeSign_of_isDigits h, readDigits_of_isDigits h]
  | plus h => simp [readInteger, takeSign, readDigits_of_isDigits h]
  | minus h => simp [readInteger, takeSign, readDigits_of_isDigits h]

theorem IsNumeral.ne_nil {cs : List Char} {n : Int} (h : IsNumeral cs n) : cs ≠ [] := by
  cases h with
  | unsigned h => exact h.1
  | plus h => exact List.cons_ne_nil _ _
  | minus h => exact List.cons_ne_nil _ _

/-- There is no white space in a numeral. -/
theorem IsNumeral.isBlank_eq_false {cs : List Char} {n : Int} (h : IsNumeral cs n) :
    ∀ c ∈ cs, Text.isBlank c = false := by
  have hdigits : ∀ {digits : List Char}, IsDigits digits → ∀ c ∈ digits, Text.isBlank c = false :=
    fun h c hc => Text.isBlank_eq_false_of_isDigit (h.2 c hc)
  cases h with
  | unsigned h => exact hdigits h
  | plus h => exact List.forall_mem_cons.2 ⟨by decide, hdigits h⟩
  | minus h => exact List.forall_mem_cons.2 ⟨by decide, hdigits h⟩

theorem Denotes.ne_nil {cs : List Char} {n : Int} (h : Denotes cs n) : cs ≠ [] := by
  obtain ⟨hnumeral, -, -⟩ := h
  simp [hnumeral.ne_nil]

/-- A text that stands for an integer has nothing but white space, signs and digits in it. -/
theorem Denotes.mem {cs : List Char} {n : Int} (h : Denotes cs n) {c : Char} (hc : c ∈ cs) :
    Text.isBlank c = true ∨ c = '+' ∨ c = '-' ∨ c.isDigit = true := by
  obtain ⟨hnumeral, hlead, htrail⟩ := h
  rw [List.mem_append, List.mem_append] at hc
  rcases hc with (hc | hc) | hc
  · exact .inl (hlead c hc)
  · cases hnumeral with
    | unsigned h => exact .inr (.inr (.inr (h.2 c hc)))
    | plus h =>
      rcases List.mem_cons.1 hc with rfl | hc
      · exact .inr (.inl rfl)
      · exact .inr (.inr (.inr (h.2 c hc)))
    | minus h =>
      rcases List.mem_cons.1 hc with rfl | hc
      · exact .inr (.inr (.inl rfl))
      · exact .inr (.inr (.inr (h.2 c hc)))
  · exact .inl (htrail c hc)

/-- Every integer of 64 bits is read from a text that stands for it. -/
theorem Value.exists_read?_of_denotes {raw : String} {n : Int} (h : Denotes raw.toList n)
    (hlow : Int64.minValue.toInt ≤ n) (hhigh : n < UInt64.size) (offset : Int) :
    ∃ literal, read? .number offset raw = some (.number literal) ∧ literal.toInt? = some n := by
  generalize hcs : raw.toList = cs at h
  obtain ⟨hnumeral, hlead, htrail⟩ := h
  obtain ⟨literal, hread, hliteral⟩ :=
    Number.exists_read? (readInteger_of_isNumeral hnumeral) hlow hhigh
  refine ⟨literal, ?_, hliteral⟩
  simp only [read?, hcs]
  rw [Text.trim_append hlead hnumeral.isBlank_eq_false hnumeral.ne_nil htrail, hread]
  rfl

/-! ## Filters on integers. -/

/-- Whether an operator that compares values by their order holds between two integers. -/
def Operator.RelatesIntegers : Operator → Int → Int → Prop
  | equal, x, n => x = n
  | notEqual, x, n => x ≠ n
  | less, x, n => x < n
  | lessEqual, x, n => x ≤ n
  | greater, x, n => x > n
  | greaterEqual, x, n => x ≥ n
  | _, _, _ => False

theorem Operator.admits_compare_iff {op : Operator} (hop : op ∈ comparisons) (x n : Int) :
    op.admits (compare x n) = true ↔ op.RelatesIntegers x n := by
  simp only [comparisons, List.mem_cons, List.not_mem_nil, or_false] at hop
  rcases hop with rfl | rfl | rfl | rfl | rfl | rfl <;>
    simp only [admits, RelatesIntegers, beq_iff_eq, bne_iff_ne, ne_eq, Int.compare_eq_eq,
      Int.compare_eq_lt, Int.compare_eq_gt] <;>
    omega

/-- Integers of either type are tested as the integers they are. -/
theorem accepts_iff_relatesIntegers {op : Operator} (hop : op ∈ Operator.comparisons)
    {value literal : Number} {x n : Int} (hvalue : value.toInt? = some x)
    (hliteral : literal.toInt? = some n) (ignoreCase : Bool) :
    (Test.compare op (.number literal) ignoreCase).accepts (.number value) = true ↔
      op.RelatesIntegers x n := by
  have hcompare : (Value.number value).compareSet? ignoreCase (.number literal) =
      some (compare x n) := Number.compare?_of_toInt? hvalue hliteral
  rw [← Operator.admits_compare_iff hop]
  simp only [Operator.comparisons, List.mem_cons, List.not_mem_nil, or_false] at hop
  rcases hop with rfl | rfl | rfl | rfl | rfl | rfl <;>
    simp [Test.accepts, Operator.isNegated, Operator.positive, holdsPositive, Value.isAbsent,
      Operator.isText, hcompare, Operator.admits]

namespace Compiler

variable {ι : Type} {c : Compiler ι} {map : FieldMap ι} {accessor : Accessor ι} {q : Comparison}

/-- A text that stands for an integer is neither empty nor the keyword for missing values. -/
theorem not_special_of_denotes {n : Int} (h : Denotes q.raw.toList n) :
    q.isBare = false ∧ q.isWithKeyword c.mapper.config = false := by
  have hempty : q.raw ≠ "" := by
    intro hraw
    exact h.ne_nil (by rw [hraw]; rfl)
  have hnull : q.raw ≠ "null" := by
    intro hraw
    have hletter := h.mem (c := 'n') (by rw [hraw]; decide)
    revert hletter
    decide
  constructor
  · simp [Comparison.isBare, hempty]
  · simp [Comparison.isWithKeyword, hnull]

theorem fits_of_literal? (hop : ∀ symbol, q.op ≠ .custom symbol) {literal : Value}
    (h : Condition.literal? c.mapper.config map.convertor accessor.kind q.op q.raw = some literal) :
    c.Fits map accessor q := by
  unfold Fits
  split
  · exact absurd ‹_› (hop _)
  · exact .inr (.inr (Option.isSome_iff_exists.2 ⟨literal, h⟩))

theorem readLast_of_read (hdirect : accessor.isNested = false) (item : ι) :
    accessor.chain.readLast item = accessor.read item := by
  obtain ⟨chain, kind, nullable, path⟩ := accessor
  cases chain with
  | value read => rfl
  | each path elements inner => cases hdirect

/-- A filter that compares an integer field with an integer of 64 bits, however it is written, relates
the two as integers. Its literal is read as an integer, so that no double takes part. -/
theorem accepts_integer_iff (c : Compiler ι) (hq : c.Compares q map accessor)
    (hdirect : accessor.isNested = false) (hkind : accessor.kind = .number)
    (hconvertor : map.convertor = none) (hop : q.op ∈ Operator.comparisons) {n : Int}
    (hraw : Denotes q.raw.toList n) (hlow : -2 ^ 63 ≤ n) (hhigh : n ≤ 2 ^ 64 - 1) :
    ∃ literal filter,
      Condition.literal? c.mapper.config map.convertor accessor.kind q.op q.raw =
        some (.number literal) ∧
      literal.toInt? = some n ∧
      c.build (predicateBackend ι) ⟨q.expr, []⟩ = .ok filter ∧
      ∀ item value x, accessor.read item = .number value → value.toInt? = some x →
        (filter.accepts item = true ↔ q.op.RelatesIntegers x n) := by
  have hbuiltin : ∀ symbol, q.op ≠ .custom symbol := by
    intro symbol hsymbol
    simp [hsymbol, Operator.comparisons] at hop
  have hnotText : ∀ op ∈ Operator.comparisons, op.isText = false := by decide
  have hmin : Int64.minValue.toInt ≤ n := by
    rw [Int64.toInt_minValue]
    omega
  have hsize : n < UInt64.size := by
    unfold UInt64.size
    omega
  obtain ⟨literal, hread, hliteral⟩ :=
    Value.exists_read?_of_denotes hraw hmin hsize c.mapper.config.defaultOffset
  have hconverts : Condition.literal? c.mapper.config map.convertor accessor.kind q.op q.raw =
      some (.number literal) := by
    simp [Condition.literal?, hconvertor, hnotText q.op hop, hkind, hread]
  have hfollows : c.Follows [] q.expr :=
    .comparison hq (fits_of_literal? hbuiltin hconverts) (Chain.collections_eq_nil_iff.2 hdirect)
  obtain ⟨filter, hbuild, hmeans⟩ := exists_build_of_follows_nil hfollows
  refine ⟨literal, filter, hconverts, hliteral, hbuild, fun item value x hitem hx => ?_⟩
  -- What is left of the comparison is the test of the value that the item has.
  obtain ⟨hbare, hkeyword⟩ := not_special_of_denotes (c := c) hraw
  rw [hmeans, meansAt_comparison hq, satisfies_builtin_iff hbuiltin, hbare, hkeyword,
    readLast_of_read hdirect, hitem]
  simp [hconverts, accepts_iff_relatesIntegers hop hx hliteral]

/-- Whether a number is less than the greatest unsigned one. -/
def belowGreatest : Comparison := ⟨"n", none, .less, " +0018446744073709551615 ", false⟩

theorem denotes_belowGreatest : Denotes belowGreatest.raw.toList 18446744073709551615 := by
  have hdigits : IsDigits "0018446744073709551615".toList :=
    ⟨by decide, List.all_eq_true.1 (by decide)⟩
  have hspace : ∀ c ∈ [' '], Text.isBlank c = true := List.forall_mem_singleton.2 (by decide)
  exact .intro (.plus hdigits) hspace hspace

/-- The greatest signed number is below the greatest unsigned one, although both are rounded to
powers of two as doubles. -/
theorem accepts_integer_iff_greatest :
    maybeNumber.isNested = false ∧ maybeNumber.kind = .number ∧
      belowGreatest.op ∈ Operator.comparisons ∧
      Denotes belowGreatest.raw.toList 18446744073709551615 ∧
      ∃ filter, maybeNumberCompiler.build (predicateBackend _) ⟨belowGreatest.expr, []⟩ =
        .ok filter ∧ filter.accepts (some 9223372036854775807) = true := by
  have hfind : maybeNumberCompiler.mapper.find? "n" = some ⟨"n", .single maybeNumber, none⟩ := rfl
  have hq : maybeNumberCompiler.Compares belowGreatest ⟨"n", .single maybeNumber, none⟩
      maybeNumber := ⟨hfind, rfl⟩
  have hop : belowGreatest.op ∈ Operator.comparisons := by decide
  obtain ⟨literal, filter, -, -, hbuild, haccepts⟩ := accepts_integer_iff maybeNumberCompiler hq rfl
    rfl rfl hop denotes_belowGreatest (by decide) (by decide)
  refine ⟨rfl, rfl, hop, denotes_belowGreatest, filter, hbuild, ?_⟩
  rw [haccepts (some 9223372036854775807) (.signed 9223372036854775807) 9223372036854775807 rfl rfl]
  show (9223372036854775807 : Int) < 18446744073709551615
  decide

end Compiler

end FilterQuery
