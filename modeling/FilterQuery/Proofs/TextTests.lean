import FilterQuery.Matching.Test
import FilterQuery.Proofs.FinalSigma
import FilterQuery.Proofs.ValueOrder

/-!
# Tests of texts

A test of a string by a built-in operator asks for a relation between two texts, in lower case where
case is ignored: of the whole texts for operators that look into them, and of their characters for
those that compare them. The two are the same unless a capital sigma ends a word, which is also where
a match may be lost by ignoring case.

## Key results

- `accepts_string_iff`: the relation that a test of a string asks for
- `ignoringCase_keeps_match`: when a text that matches still matches without regard to case
- `accepts_ignoringCase_iff`: a test that ignores case compares texts in lower case
-/

namespace FilterQuery

/-! ## Operators as relations of texts. -/

namespace Operator

/-- Whether a built-in operator holds between the text of a value and that of a literal. -/
def RelatesTexts : Operator → List Char → List Char → Prop
  | equal, value, literal => value = literal
  | notEqual, value, literal => value ≠ literal
  | less, value, literal => value < literal
  | lessEqual, value, literal => ¬literal < value
  | greater, value, literal => literal < value
  | greaterEqual, value, literal => ¬value < literal
  | contains, value, literal => literal <:+: value
  | notContains, value, literal => ¬literal <:+: value
  | startsWith, value, literal => literal <+: value
  | notStartsWith, value, literal => ¬literal <+: value
  | endsWith, value, literal => literal <:+ value
  | notEndsWith, value, literal => ¬literal <:+ value
  | custom _, _, _ => False

/-- What an operator compares of a text: the text itself, or its lower case. -/
def compared (op : Operator) (ignoreCase : Bool) (cs : List Char) : List Char :=
  if ignoreCase then if op.isText then Text.lower cs else Text.lowerEach cs else cs

theorem compared_positive (op : Operator) (ignoreCase : Bool) :
    op.positive.compared ignoreCase = op.compared ignoreCase := by
  funext cs
  rw [compared, compared, isText_positive]

/-- A negated operator relates the texts that its positive form does not relate. -/
theorem relatesTexts_iff_not_positive {op : Operator} (h : op.isNegated = true)
    (value literal : List Char) :
    op.RelatesTexts value literal ↔ ¬op.positive.RelatesTexts value literal := by
  cases op <;> first | exact Iff.rfl | cases h

theorem admits_compareTexts_iff {op : Operator} (hop : op ∈ builtin) (htext : op.isText = false)
    (value literal : List Char) :
    op.admits (compareTexts value literal) = true ↔ op.RelatesTexts value literal := by
  have heq : compareTexts value literal = .eq ↔ value = literal := Std.compare_eq_iff_eq
  have hlt : compareTexts value literal = .lt ↔ value < literal :=
    ValueFamily.compareTexts_eq_lt_iff
  have hgt : compareTexts value literal = .gt ↔ literal < value := by
    rw [← ValueFamily.compareTexts_eq_lt_iff]
    show compare value literal = .gt ↔ compare literal value = .lt
    exact Std.OrientedCmp.gt_iff_lt
  cases op with
  | equal => simp [admits, RelatesTexts, heq]
  | notEqual => simp [admits, RelatesTexts, heq]
  | less => simp [admits, RelatesTexts, hlt]
  | lessEqual => simp [admits, RelatesTexts, hgt]
  | greater => simp [admits, RelatesTexts, hgt]
  | greaterEqual => simp [admits, RelatesTexts, hlt]
  | custom name => simp [builtin] at hop
  | _ => cases htext

theorem holdsOfTexts_iff {op : Operator} (htext : op.isText = true)
    (hpositive : op.isNegated = false) (value literal : List Char) :
    op.holdsOfTexts value literal = true ↔ op.RelatesTexts value literal := by
  cases op with
  | contains => exact isInfix_iff
  | startsWith => exact List.isPrefixOf_iff_prefix
  | endsWith => exact List.isSuffixOf_iff_suffix
  | notContains | notStartsWith | notEndsWith => cases hpositive
  | _ => cases htext

end Operator

theorem holdsPositive_string_iff {op : Operator} (hop : op ∈ Operator.builtin)
    (hpositive : op.isNegated = false) (ignoreCase : Bool) (value literal : String) :
    holdsPositive op (.string value) (.string literal) ignoreCase = true ↔
      op.RelatesTexts (op.compared ignoreCase value.toList)
        (op.compared ignoreCase literal.toList) := by
  cases htext : op.isText with
  | true =>
    rw [← Operator.holdsOfTexts_iff htext hpositive]
    cases ignoreCase <;> simp [holdsPositive, Value.isAbsent, Value.print?, Operator.compared, htext]
  | false =>
    rw [← Operator.admits_compareTexts_iff hop htext]
    cases ignoreCase <;>
      simp [holdsPositive, Value.isAbsent, Value.compareSet?, compareTextsIgnoringCase,
        Operator.compared, htext]

/-- A test of a string by a built-in operator asks for a relation between texts. -/
theorem accepts_string_iff {op : Operator} (hop : op ∈ Operator.builtin) (ignoreCase : Bool)
    (value literal : String) :
    (Test.compare op (.string literal) ignoreCase).accepts (.string value) = true ↔
      op.RelatesTexts (op.compared ignoreCase value.toList)
        (op.compared ignoreCase literal.toList) := by
  cases hneg : op.isNegated with
  | false =>
    rw [Test.accepts, if_neg (by simp [hneg])]
    exact holdsPositive_string_iff hop hneg ignoreCase value literal
  | true =>
    have hbuiltin : op.positive ∈ Operator.builtin := by
      cases op <;> first | decide | cases hneg
    rw [Operator.relatesTexts_iff_not_positive hneg, ← Operator.compared_positive,
      ← holdsPositive_string_iff hbuiltin op.isNegated_positive]
    simp [Test.accepts, hneg]

/-! ## Ignoring case. -/

/-- A test that ignores case asks for the relation between the texts in lower case, if its operator
looks into texts, or if no capital sigma ends a word in them. -/
theorem accepts_ignoringCase_iff {op : Operator} (hop : op ∈ Operator.builtin)
    {value literal : String}
    (h : op.isText = true ∨
      ¬Text.HasFinalSigma value.toList ∧ ¬Text.HasFinalSigma literal.toList) :
    (Test.compare op (.string literal) true).accepts (.string value) = true ↔
      op.RelatesTexts (Text.lower value.toList) (Text.lower literal.toList) := by
  rw [accepts_string_iff hop, Operator.compared, Operator.compared, if_pos rfl, if_pos rfl]
  rcases h with htext | ⟨hvalue, hliteral⟩
  · rw [if_pos htext, if_pos htext]
  · -- Character by character the texts come to the same.
    rw [Text.lower_eq_lowerEach_iff.2 hvalue, Text.lower_eq_lowerEach_iff.2 hliteral, ite_self,
      ite_self]

/-- A capital sigma in front of a letter stays a plain one, in either way. -/
theorem accepts_ignoringCase_iff_sofia :
    .equal ∈ Operator.builtin ∧
      (¬Text.HasFinalSigma "ΣΟΦΙΑ".toList ∧ ¬Text.HasFinalSigma "σοφια".toList) ∧
      (Test.compare .equal (.string "σοφια") true).accepts (.string "ΣΟΦΙΑ") = true ∧
      Operator.equal.RelatesTexts (Text.lower "ΣΟΦΙΑ".toList) (Text.lower "σοφια".toList) := by
  have hvalue : ¬Text.HasFinalSigma "ΣΟΦΙΑ".toList :=
    Text.lower_eq_lowerEach_iff.1 (by decide +kernel)
  have hliteral : ¬Text.HasFinalSigma "σοφια".toList :=
    Text.lower_eq_lowerEach_iff.1 (by decide +kernel)
  have haccepts : (Test.compare .equal (.string "σοφια") true).accepts (.string "ΣΟΦΙΑ") = true := by
    decide +kernel
  exact ⟨by decide, ⟨hvalue, hliteral⟩, haccepts,
    (accepts_ignoringCase_iff (by decide) (.inr ⟨hvalue, hliteral⟩)).1 haccepts⟩

/-- A capital sigma that ends a word is the final one in lower case, but not when its text is tested
for equality. -/
theorem not_accepts_finalSigma :
    Operator.equal.RelatesTexts (Text.lower "ΑΣ".toList) (Text.lower "ας".toList) ∧
      (Test.compare .equal (.string "ας") true).accepts (.string "ΑΣ") = false := by
  constructor
  · show Text.lower "ΑΣ".toList = Text.lower "ας".toList
    decide +kernel
  · decide +kernel

/-! ## Matches that are kept. -/

namespace Operator

/-- The operators that look for a literal in a text. -/
def seekers : List Operator := [equal, contains, startsWith, endsWith]

/-- Whether an operator looks for a literal between the two parts of a text. -/
def SeeksBetween : Operator → List Char → List Char → Prop
  | equal, before, after => before = [] ∧ after = []
  | contains, _, _ => True
  | startsWith, before, _ => before = []
  | endsWith, _, after => after = []
  | _, _, _ => False

/-- Whether an operator finds a literal at some place of a text where the capital sigmas of the literal
end words iff they do so in the literal by itself. -/
def FindsAlike (op : Operator) (value literal : List Char) : Prop :=
  ∃ before after, value = before ++ literal ++ after ∧ op.SeeksBetween before after ∧
    Text.SigmasAgree before literal after

/-- An operator relates a text to the literals that it finds there. -/
theorem relatesTexts_iff_seeks {op : Operator} (hop : op ∈ seekers) {value literal : List Char} :
    op.RelatesTexts value literal ↔
      ∃ before after, value = before ++ literal ++ after ∧ op.SeeksBetween before after := by
  simp only [seekers, List.mem_cons, List.not_mem_nil, or_false] at hop
  rcases hop with rfl | rfl | rfl | rfl
  · simp [RelatesTexts, SeeksBetween]
  · simp only [RelatesTexts, SeeksBetween, and_true, List.IsInfix, eq_comm]
  · simp only [RelatesTexts, SeeksBetween, List.IsPrefix]
    constructor
    · rintro ⟨after, rfl⟩
      exact ⟨[], after, rfl, rfl⟩
    · rintro ⟨before, after, rfl, rfl⟩
      exact ⟨after, rfl⟩
  · simp only [RelatesTexts, SeeksBetween, List.IsSuffix]
    constructor
    · rintro ⟨before, rfl⟩
      exact ⟨before, [], by simp, rfl⟩
    · rintro ⟨before, after, rfl, rfl⟩
      exact ⟨before, by simp⟩

end Operator

namespace Text

/-- A part whose sigmas agree with the text is found in its lower case, too. -/
theorem SigmasAgree.lower_eq {before cs after : List Char} (h : SigmasAgree before cs after) :
    lower (before ++ cs ++ after) =
      lowerIn [] before (cs ++ after) ++ lower cs ++ lowerIn (before ++ cs) after [] := by
  rw [lower_append_append, lowerIn_eq_lower_iff.2 h]

theorem lower_prefix_iff {cs after : List Char} :
    lower cs <+: lower (cs ++ after) ↔ SigmasAgree [] cs after := by
  have hsplit : lower (cs ++ after) = lowerIn [] cs after ++ lowerIn cs after [] :=
    lower_append_append [] cs after
  rw [← lowerIn_eq_lower_iff, hsplit]
  constructor
  · intro h
    have hfront := List.prefix_of_prefix_length_le h (List.prefix_append _ _)
      (Nat.le_of_eq (length_lowerIn [] cs after).symm)
    exact (hfront.eq_of_length (length_lowerIn [] cs after).symm).symm
  · intro h
    rw [h]
    exact List.prefix_append _ _

theorem lower_suffix_iff {before cs : List Char} :
    lower cs <:+ lower (before ++ cs) ↔ SigmasAgree before cs [] := by
  have hsplit : lower (before ++ cs) = lowerIn [] before cs ++ lowerIn before cs [] := by
    have h := lower_append_append before cs []
    rwa [List.append_nil, List.append_nil, show lowerIn (before ++ cs) [] [] = [] from rfl,
      List.append_nil] at h
  rw [← lowerIn_eq_lower_iff, hsplit]
  constructor
  · intro h
    have hback := List.suffix_of_suffix_length_le h (List.suffix_append _ _)
      (Nat.le_of_eq (length_lowerIn before cs []).symm)
    exact (hback.eq_of_length (length_lowerIn before cs []).symm).symm
  · intro h
    rw [h]
    exact List.suffix_append _ _

theorem sigmasAgree_nil_nil (cs : List Char) : SigmasAgree [] cs [] := by
  intro front back _
  rw [List.nil_append, List.append_nil]

theorem sigmasAgree_of_not_mem {cs : List Char} (h : 'Σ' ∉ cs) (before after : List Char) :
    SigmasAgree before cs after := by
  rintro front back rfl
  simp at h

end Text

namespace Operator

/-- A literal without capital sigmas is found alike wherever it is found. -/
theorem findsAlike_of_not_mem {op : Operator} (hop : op ∈ seekers) {value literal : List Char}
    (hliteral : 'Σ' ∉ literal) (h : op.RelatesTexts value literal) :
    op.FindsAlike value literal := by
  obtain ⟨before, after, hvalue, hseeks⟩ := (relatesTexts_iff_seeks hop).1 h
  exact ⟨before, after, hvalue, hseeks, Text.sigmasAgree_of_not_mem hliteral before after⟩

/-- What is found alike is found in lower case. -/
theorem FindsAlike.lower {op : Operator} (hop : op ∈ seekers) {value literal : List Char}
    (h : op.FindsAlike value literal) :
    op.RelatesTexts (Text.lower value) (Text.lower literal) := by
  obtain ⟨before, after, rfl, hseeks, hagree⟩ := h
  refine (relatesTexts_iff_seeks hop).2 ⟨_, _, hagree.lower_eq, ?_⟩
  cases op with
  | equal => exact ⟨by rw [hseeks.1]; rfl, by rw [hseeks.2]; rfl⟩
  | contains => trivial
  | startsWith => rw [SeeksBetween, show before = [] from hseeks]; rfl
  | endsWith => rw [SeeksBetween, show after = [] from hseeks]; rfl
  | _ => exact hseeks.elim

/-- A literal found at an end of a text is found there in lower case only if it is found alike: there
is but one place for it. -/
theorem findsAlike_of_lower {op : Operator} (hop : op ∈ [startsWith, endsWith])
    {value literal : List Char} (h : op.RelatesTexts value literal)
    (hlower : op.RelatesTexts (Text.lower value) (Text.lower literal)) :
    op.FindsAlike value literal := by
  simp only [List.mem_cons, List.not_mem_nil, or_false] at hop
  rcases hop with rfl | rfl
  · obtain ⟨after, rfl⟩ : literal <+: value := h
    exact ⟨[], after, rfl, rfl, Text.lower_prefix_iff.1 hlower⟩
  · obtain ⟨before, rfl⟩ : literal <:+ value := h
    exact ⟨before, [], by simp, rfl, Text.lower_suffix_iff.1 hlower⟩

end Operator

/-- Equal texts stay equal without regard to case. A literal found in a text is found there in lower
case, too, if it has no capital sigma, or if at one of its places its capital sigmas end words iff they
do so in the literal by itself; at an end of the text, only then. -/
theorem ignoringCase_keeps_match {op : Operator} (hop : op ∈ Operator.seekers)
    {value literal : String}
    (h : (Test.compare op (.string literal) false).accepts (.string value) = true) :
    (op = .equal ∨ 'Σ' ∉ literal.toList ∨ op.FindsAlike value.toList literal.toList →
        (Test.compare op (.string literal) true).accepts (.string value) = true) ∧
      (op ≠ .contains →
        (Test.compare op (.string literal) true).accepts (.string value) = true →
          op.FindsAlike value.toList literal.toList) := by
  have hbuiltin : op ∈ Operator.builtin := by
    simp only [Operator.seekers, List.mem_cons, List.not_mem_nil, or_false] at hop
    rcases hop with rfl | rfl | rfl | rfl <;> decide
  rw [accepts_string_iff hbuiltin] at h
  change op.RelatesTexts value.toList literal.toList at h
  rw [accepts_string_iff hbuiltin]
  by_cases hequal : op = .equal
  · subst hequal
    have hvalue : value.toList = literal.toList := h
    refine ⟨fun _ => congrArg _ hvalue, fun _ _ => ?_⟩
    exact ⟨[], [], by simp [hvalue], ⟨rfl, rfl⟩, Text.sigmasAgree_nil_nil _⟩
  · -- The other operators look into texts, so these are lowered as a whole.
    have hcompared : op.compared true = Text.lower := by
      simp only [Operator.seekers, List.mem_cons, List.not_mem_nil, or_false] at hop
      rcases hop with rfl | rfl | rfl | rfl
      · exact absurd rfl hequal
      all_goals rfl
    rw [hcompared]
    constructor
    · rintro (hop' | hliteral | hfinds)
      · exact absurd hop' hequal
      · exact (Operator.findsAlike_of_not_mem hop hliteral h).lower hop
      · exact hfinds.lower hop
    · intro hcontains hlower
      refine Operator.findsAlike_of_lower ?_ h hlower
      simpa [Operator.seekers, hequal, hcontains] using hop

/-- The capital sigma of the literal ends a word in the text as it does by itself. -/
theorem ignoringCase_keeps_match_kosmos :
    .endsWith ∈ Operator.seekers ∧
      (Test.compare .endsWith (.string "ΜΟΣ") false).accepts (.string "ΚΟΣΜΟΣ") = true ∧
      (Test.compare .endsWith (.string "ΜΟΣ") true).accepts (.string "ΚΟΣΜΟΣ") = true ∧
      Operator.endsWith.FindsAlike "ΚΟΣΜΟΣ".toList "ΜΟΣ".toList := by
  have hmatch : (Test.compare .endsWith (.string "ΜΟΣ") false).accepts (.string "ΚΟΣΜΟΣ") = true := by
    decide +kernel
  have hlower : (Test.compare .endsWith (.string "ΜΟΣ") true).accepts (.string "ΚΟΣΜΟΣ") = true := by
    decide +kernel
  exact ⟨by decide, hmatch, hlower,
    (ignoringCase_keeps_match (by decide) hmatch).2 (by decide) hlower⟩

/-- A capital sigma that ends the literal but no word of the text becomes a final sigma in one of them
only, so the literal is not found in the text any more. -/
theorem ignoringCase_loses_match :
    (Test.compare .contains (.string "ΑΣ") false).accepts (.string "ΑΣΑ") = true ∧
      (Test.compare .contains (.string "ΑΣ") true).accepts (.string "ΑΣΑ") = false ∧
      (Test.compare .startsWith (.string "ΑΣ") false).accepts (.string "ΑΣΑ") = true ∧
      (Test.compare .startsWith (.string "ΑΣ") true).accepts (.string "ΑΣΑ") = false ∧
      (Test.compare .endsWith (.string "Σ") false).accepts (.string "ΑΣ") = true ∧
      (Test.compare .endsWith (.string "Σ") true).accepts (.string "ΑΣ") = false := by
  decide +kernel

end FilterQuery
