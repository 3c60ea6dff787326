import FilterQuery.Compile.Document
import FilterQuery.Proofs.TextTests

/-!
# Wildcard patterns

A search engine reads a pattern character by character: a star stands for any text, a question mark for
any character, and a backslash takes the meaning away from the character behind it. The pattern for a
literal has its text between stars, or behind one, so that it matches the texts that contain the text of
the literal, or end with it, whatever characters the text has.

## Key results

- `matches_escapePattern_append_iff`: an escaped text matches itself, in front of anything
- `wildcard_matches_iff`: the pattern of a document matches what the test of the filter accepts
-/

namespace FilterQuery

namespace Document

/-- Whether a pattern matches a text as a whole. -/
inductive Matches : List Char → List Char → Prop
  | nil : Matches [] []
  /-- A star stands for any text. -/
  | star {pattern cs : List Char} (front : List Char) (h : Matches pattern cs) :
      Matches ('*' :: pattern) (front ++ cs)
  /-- A question mark stands for any character. -/
  | any {pattern cs : List Char} (c : Char) (h : Matches pattern cs) :
      Matches ('?' :: pattern) (c :: cs)
  /-- A character behind a backslash stands for itself. -/
  | escaped {pattern cs : List Char} (c : Char) (h : Matches pattern cs) :
      Matches ('\\' :: c :: pattern) (c :: cs)
  | plain {pattern cs : List Char} {c : Char} (hc : c ≠ '*' ∧ c ≠ '?' ∧ c ≠ '\\')
      (h : Matches pattern cs) : Matches (c :: pattern) (c :: cs)

variable {pattern cs : List Char}

theorem matches_nil_iff : Matches [] cs ↔ cs = [] := by
  constructor
  · rintro ⟨⟩
    rfl
  · rintro rfl
    exact .nil

theorem matches_star_iff :
    Matches ('*' :: pattern) cs ↔ ∃ front rest, cs = front ++ rest ∧ Matches pattern rest := by
  constructor
  · intro h
    cases h with
    | star front h => exact ⟨front, _, rfl, h⟩
    | plain hc => exact absurd rfl hc.1
  · rintro ⟨front, rest, rfl, h⟩
    exact .star front h

theorem matches_escaped_iff {c : Char} :
    Matches ('\\' :: c :: pattern) cs ↔ ∃ rest, cs = c :: rest ∧ Matches pattern rest := by
  constructor
  · intro h
    cases h with
    | escaped _ h => exact ⟨_, rfl, h⟩
    | plain hc => exact absurd rfl hc.2.2
  · rintro ⟨rest, rfl, h⟩
    exact .escaped c h

theorem matches_plain_iff {c : Char} (hc : c ≠ '*' ∧ c ≠ '?' ∧ c ≠ '\\') :
    Matches (c :: pattern) cs ↔ ∃ rest, cs = c :: rest ∧ Matches pattern rest := by
  constructor
  · intro h
    cases h with
    | plain _ h => exact ⟨_, rfl, h⟩
    | star => exact absurd rfl hc.1
    | any => exact absurd rfl hc.2.1
    | escaped => exact absurd rfl hc.2.2
  · rintro ⟨rest, rfl, h⟩
    exact .plain hc h

/-- Each character of an escaped text matches itself, with a backslash in front or without. -/
theorem matches_escapePattern_append_iff {text : List Char} :
    Matches (escapePattern text ++ pattern) cs ↔ ∃ rest, cs = text ++ rest ∧ Matches pattern rest := by
  induction text generalizing cs with
  | nil => simp [escapePattern]
  | cons c text ih =>
    have hhead : Matches (escapePattern (c :: text) ++ pattern) cs ↔
        ∃ rest, cs = c :: rest ∧ Matches (escapePattern text ++ pattern) rest := by
      rw [escapePattern, List.flatMap_cons, List.append_assoc]
      by_cases hspecial : (c == '*' || c == '?' || c == '\\') = true
      · rw [if_pos hspecial]
        exact matches_escaped_iff
      · rw [if_neg hspecial]
        simp only [Bool.or_eq_true, beq_iff_eq, not_or] at hspecial
        exact matches_plain_iff ⟨hspecial.1.1, hspecial.1.2, hspecial.2⟩
    rw [hhead]
    constructor
    · rintro ⟨_, rfl, h⟩
      obtain ⟨rest, rfl, hrest⟩ := ih.1 h
      exact ⟨rest, rfl, hrest⟩
    · rintro ⟨rest, rfl, h⟩
      exact ⟨text ++ rest, rfl, ih.2 ⟨rest, rfl, h⟩⟩

theorem matches_endsWith_iff {text : List Char} :
    Matches ('*' :: escapePattern text) cs ↔ text <:+ cs := by
  rw [← List.append_nil (escapePattern text), matches_star_iff]
  simp only [matches_escapePattern_append_iff, matches_nil_iff]
  constructor
  · rintro ⟨front, rest, rfl, last, rfl, rfl⟩
    exact ⟨front, by rw [List.append_nil]⟩
  · rintro ⟨front, rfl⟩
    exact ⟨front, text, rfl, [], by rw [List.append_nil], rfl⟩

theorem matches_contains_iff {text : List Char} :
    Matches ('*' :: escapePattern text ++ ['*']) cs ↔ text <:+: cs := by
  -- What stands behind the second star is a whole text again.
  have hlast : ∀ rest, Matches ['*'] rest := fun rest => by
    simpa using Matches.star rest .nil
  rw [List.cons_append, matches_star_iff]
  simp only [matches_escapePattern_append_iff, hlast, and_true]
  constructor
  · rintro ⟨front, rest, rfl, last, rfl⟩
    exact ⟨front, last, by rw [List.append_assoc]⟩
  · rintro ⟨front, last, rfl⟩
    exact ⟨front, text ++ last, by rw [List.append_assoc], last, rfl⟩

end Document

/-- An operator on texts holds between a string and a literal if it holds between their texts. -/
theorem accepts_text_iff {op : Operator} (htext : op.isText = true) (hpositive : op.isNegated = false)
    {literal : Value} {text : List Char} (hliteral : literal.print? = some text) (value : String) :
    (Test.compare op literal false).accepts (.string value) = true ↔
      op.RelatesTexts value.toList text := by
  have hvalue : (Value.string value).print? = some value.toList := rfl
  rw [← Operator.holdsOfTexts_iff htext hpositive]
  simp [Test.accepts, hpositive, holdsPositive, Value.isAbsent, htext, hvalue, hliteral]

open Document in
/-- The pattern for a literal with a text matches the strings that contain the text, or that end with
it, which are the strings that the test of the filter accepts. -/
theorem wildcard_matches_iff {ι : Type} {target : Target ι} (hindex : target.index = none)
    {literal : Value} {text : List Char} (hliteral : literal.print? = some text) (ignoreCase : Bool) :
    (∃ pattern, (documentBackend ι).leaf target (.compare .contains literal ignoreCase) =
        .ok (wildcard target.path pattern ignoreCase) ∧
      ∀ s : String, (Matches pattern s.toList ↔ text <:+: s.toList) ∧
        (Matches pattern s.toList ↔
          (Test.compare .contains literal false).accepts (.string s) = true)) ∧
    ∃ pattern, (documentBackend ι).leaf target (.compare .endsWith literal ignoreCase) =
        .ok (wildcard target.path pattern ignoreCase) ∧
      ∀ s : String, (Matches pattern s.toList ↔ text <:+ s.toList) ∧
        (Matches pattern s.toList ↔
          (Test.compare .endsWith literal false).accepts (.string s) = true) := by
  have htext : literalText literal = text := by rw [literalText, hliteral, Option.getD_some]
  constructor
  · refine ⟨'*' :: escapePattern text ++ ['*'], ?_, fun s => ⟨matches_contains_iff, ?_⟩⟩
    · simp [documentBackend, leaf, hindex, Operator.positive, Operator.isNegated, positive, htext]
    · rw [matches_contains_iff, accepts_text_iff rfl rfl hliteral]
      rfl
  · refine ⟨'*' :: escapePattern text, ?_, fun s => ⟨matches_endsWith_iff, ?_⟩⟩
    · simp [documentBackend, leaf, hindex, Operator.positive, Operator.isNegated, positive, htext]
    · rw [matches_endsWith_iff, accepts_text_iff rfl rfl hliteral]
      rfl

/-- The name of a file. -/
def fileTarget : Target String where
  name := "file"
  path := "file"
  kind := .string
  nullable := false
  index := none
  read := .string

/-- A literal that is full of stars, question marks and backslashes is sought as it is, at the end of a
text with more of them. -/
theorem wildcard_matches_iff_backslashes :
    fileTarget.index = none ∧ (Value.string "\\*?\\").print? = some "\\*?\\".toList ∧
      ∃ pattern, (documentBackend String).leaf fileTarget
          (.compare .endsWith (.string "\\*?\\") true) =
          .ok (Document.wildcard "file" pattern true) ∧
        Document.Matches pattern "?\\\\*?\\".toList ∧
        ¬Document.Matches pattern "\\*\\\\".toList := by
  have hindex : fileTarget.index = none := rfl
  have hliteral : (Value.string "\\*?\\").print? = some "\\*?\\".toList := rfl
  obtain ⟨-, pattern, hleaf, hmatches⟩ := wildcard_matches_iff hindex hliteral true
  refine ⟨hindex, hliteral, pattern, hleaf, ?_, ?_⟩
  · rw [(hmatches "?\\\\*?\\").1]
    decide
  · rw [(hmatches "\\*\\\\").1]
    decide

end FilterQuery
