import FilterQuery.Filter.Expr.Print
import FilterQuery.Operators
import FilterQuery.Proofs.ScanTokens

/-!
# Cutting what was written

For each part of a written filter, a lemma says which piece `cut` finds at its front: field names,
indexes, operators, values, parentheses, conjunctions and the mark `/i`. Each holds in front of any
text that does not extend the part.

## Key results

- `cut_field`, `cut_index`, `cut_operator`, `cut_value`: the parts of a comparison
- `mayExtendBy_head?_written`: an operator is not extended by the value that is written behind it
-/

namespace FilterQuery

/-! ## Field characters. -/

/-- No blank is a field character: none of the ranges of blanks meets the field characters. -/
theorem isFieldChar_of_blankRanges : Text.blankRanges.all (fun range =>
    (List.range' range.1 (range.2 + 1 - range.1)).all fun n => !isFieldChar (Char.ofNat n)) := by
  decide +kernel

theorem isFieldChar_eq_false_of_isBlank {c : Char} (h : Text.isBlank c = true) :
    isFieldChar c = false := by
  obtain ⟨range, hrange, hlo, hhi⟩ := Text.CodeRanges.contains_iff.1 h
  have hall := List.all_eq_true.1 isFieldChar_of_blankRanges range hrange
  have hmem : c.toNat ∈ List.range' range.1 (range.2 + 1 - range.1) := by
    rw [List.mem_range'_1]
    omega
  simpa using List.all_eq_true.1 hall c.toNat hmem

theorem isFieldChar_eq_false_of_isValueDelimiter {c : Char} (h : isValueDelimiter c = true) :
    isFieldChar c = false := by
  simp only [isValueDelimiter, Bool.or_eq_true, beq_iff_eq] at h
  rcases h with ((rfl | rfl) | rfl) | rfl <;> decide

/-! ## Values. -/

theorem endsValue_cons {c : Char} {rest : List Char} (h : endsValue (c :: rest) = true) :
    c = '/' ∨ isValueDelimiter c = true := by
  simp only [endsValue, Bool.or_eq_true] at h
  rcases h with h | h
  · exact .inr h
  · obtain ⟨tail, htail⟩ := startsIgnoreCase_iff.1 h
    exact .inl (List.cons.inj htail).1

theorem cutValue_of_endsValue {text : List Char} (h : endsValue text = true) :
    cutValue text = ([], text) := by
  cases text with
  | nil => rfl
  | cons c rest =>
    have hc : c ≠ '\\' := by
      rintro rfl
      simp [endsValue, isValueDelimiter, startsIgnoreCase] at h
    rw [cutValue]
    · exact if_pos h
    · simp [hc]
    · simp [hc]

theorem cutValue_cons {c : Char} {rest : List Char} (hc : c ≠ '\\')
    (hdelimiter : isValueDelimiter c = false) (hmark : startsIgnoreCase (c :: rest) = false) :
    cutValue (c :: rest) = (c :: (cutValue rest).1, (cutValue rest).2) := by
  rw [cutValue]
  · simp [hdelimiter, hmark]
  · simp [hc]
  · simp [hc]

/-- An escaped text begins with a backslash or with its own first character. -/
theorem exists_escapeValue_cons (c : Char) (cs : List Char) :
    ∃ tail, escapeValue (c :: cs) = '\\' :: tail ∨ escapeValue (c :: cs) = c :: tail := by
  unfold escapeValue
  split
  · exact ⟨_, .inl rfl⟩
  · exact ⟨_, .inr rfl⟩

/-- A slash that needs no escape does not begin the mark `/i` in the escaped text either. -/
theorem startsIgnoreCase_escapeValue {c : Char} {cs rest : List Char}
    (h : startsIgnoreCase (c :: cs) = false) (hrest : endsValue rest = true) :
    startsIgnoreCase (c :: (escapeValue cs ++ rest)) = false := by
  rw [Bool.eq_false_iff]
  intro hmark
  obtain ⟨tail, htail⟩ := startsIgnoreCase_iff.1 hmark
  obtain ⟨rfl, hi⟩ := List.cons.inj htail
  -- The `i` is the first character of the escaped text, or of what follows it.
  cases cs with
  | nil =>
    rw [escapeValue, List.nil_append] at hi
    rw [hi] at hrest
    simp [endsValue, isValueDelimiter, startsIgnoreCase] at hrest
  | cons d ds =>
    obtain ⟨written, hwritten | hwritten⟩ := exists_escapeValue_cons d ds
    · simp [hwritten] at hi
    · rw [hwritten, List.cons_append] at hi
      obtain ⟨rfl, -⟩ := List.cons.inj hi
      simp [startsIgnoreCase] at h

/-- An escaped text is cut off as a value in front of every text where a value ends. -/
theorem cutValue_escapeValue {cs rest : List Char} (h : endsValue rest = true) :
    cutValue (escapeValue cs ++ rest) = (escapeValue cs, rest) := by
  induction cs with
  | nil => exact cutValue_of_endsValue h
  | cons c cs ih =>
    unfold escapeValue
    split
    · simp [cutValue, ih]
    · rename_i hc
      simp only [Bool.or_eq_true, beq_iff_eq, not_or, Bool.not_eq_true] at hc
      obtain ⟨⟨hbackslash, hdelimiter⟩, hmark⟩ := hc
      rw [List.cons_append, cutValue_cons hbackslash hdelimiter
        (startsIgnoreCase_escapeValue hmark h), ih]

/-- What is written behind an operator for a value, without the mark `/i`. -/
def writtenValue (op : Operator) (raw : String) : List Char :=
  separator op (.value raw false) ++ escapeValue raw.toList

/-- No operator is extended by what ends or escapes a value. -/
theorem mayExtendBy_eq_false {c : Char} (h : c = '\\' ∨ c = '/' ∨ isValueDelimiter c = true)
    (op : Operator) : op.mayExtendBy isFieldChar c = false := by
  have hc : isFieldChar c = false ∧ c ≠ '*' ∧ c ≠ '=' := by
    rcases h with rfl | rfl | h
    · decide
    · decide
    · refine ⟨isFieldChar_eq_false_of_isValueDelimiter h, ?_, ?_⟩ <;>
        (rintro rfl; exact absurd h (by decide))
  cases op <;> simp [Operator.mayExtendBy, hc]

/-- A character that could extend an operator needs no escape in a value. -/
theorem escapeValue_of_mayExtendBy {op : Operator} {c : Char} {cs : List Char}
    (h : op.mayExtendBy isFieldChar c = true) : escapeValue (c :: cs) = c :: escapeValue cs := by
  have hplain : ¬(c = '\\' ∨ c = '/' ∨ isValueDelimiter c = true) := fun hc => by
    simp [mayExtendBy_eq_false hc] at h
  rw [escapeValue, if_neg]
  simp only [Bool.or_eq_true, beq_iff_eq]
  rintro ((hbackslash | hdelimiter) | hmark)
  · exact hplain (.inl hbackslash)
  · exact hplain (.inr (.inr hdelimiter))
  · obtain ⟨tail, htail⟩ := startsIgnoreCase_iff.1 hmark
    exact hplain (.inr (.inl (List.cons.inj htail).1))

/-- A value is written with a backslash in front, if its first character needs one there, and then
with its own escapes. -/
theorem writtenValue_cases (op : Operator) (raw : String) :
    (writtenValue op raw = escapeValue raw.toList ∧
        ∀ c ∈ raw.toList.head?, op.mayExtendBy isFieldChar c = false) ∨
      ∃ c cs, raw.toList = c :: cs ∧ writtenValue op raw = '\\' :: c :: escapeValue cs := by
  unfold writtenValue separator
  cases hraw : raw.toList with
  | nil => simp [hraw]
  | cons c cs =>
    by_cases hc : op.mayExtendBy isFieldChar c = true
    · right
      refine ⟨c, cs, rfl, ?_⟩
      simp [hraw, hc, escapeValue_of_mayExtendBy hc]
    · left
      simp [hraw, hc]

/-- A value is cut off as it was written, and read as its text. -/
theorem cut_value (customs : List String) (op : Operator) (raw : String) {rest : List Char}
    (h : endsValue rest = true) :
    cut customs .value (writtenValue op raw ++ rest) =
      ⟨.value, raw.toList, writtenValue op raw, rest, none⟩ := by
  rcases writtenValue_cases op raw with ⟨hwritten, -⟩ | ⟨c, cs, hraw, hwritten⟩
  · simp [cut, cutValuePiece, hwritten, cutValue_escapeValue h, unescape_escapeValue]
  · simp [cut, cutValuePiece, hwritten, hraw, cutValue, cutValue_escapeValue h,
      unescape_backslash, unescape_escapeValue]

/-- What is written behind an operator does not extend it. -/
theorem mayExtendBy_head?_written (op : Operator) (raw : String) {rest : List Char}
    (h : endsValue rest = true) :
    ∀ c ∈ (writtenValue op raw ++ rest).head?, op.mayExtendBy isFieldChar c = false := by
  intro c hc
  rcases writtenValue_cases op raw with ⟨hwritten, hraw⟩ | ⟨d, ds, hraw, hwritten⟩
  · cases htext : raw.toList with
    | nil =>
      -- The value is empty, so the next character ends it.
      rw [hwritten, htext, escapeValue, List.nil_append] at hc
      cases rest with
      | nil => cases hc
      | cons d ds =>
        cases hc
        exact mayExtendBy_eq_false (.inr (endsValue_cons h)) op
    | cons d ds =>
      rw [hwritten, htext] at hc
      obtain ⟨tail, htail | htail⟩ := exists_escapeValue_cons d ds
      · rw [htail] at hc
        cases hc
        exact mayExtendBy_eq_false (.inl rfl) op
      · rw [htail] at hc
        cases hc
        exact hraw c (by simp [htext])
  · rw [hwritten] at hc
    cases hc
    exact mayExtendBy_eq_false (.inl rfl) op

/-! ## Indexes and field names. -/

theorem cutIndex_escapeIndex (cs rest : List Char) :
    cutIndex (escapeIndex cs ++ ']' :: rest) = some (escapeIndex cs, rest) := by
  induction cs with
  | nil => simp [escapeIndex, cutIndex]
  | cons c cs ih =>
    rw [escapeIndex, List.flatMap_cons, ← escapeIndex]
    split
    · simp [cutIndex, ih]
    · rename_i hc
      simp only [Bool.or_eq_true, beq_iff_eq, not_or] at hc
      rw [List.append_assoc, List.cons_append, List.nil_append, cutIndex]
      · simp [hc, ih]
      · simp [hc]
      · simp [hc]

/-- The index behind a field name is cut off as it was written, and read as its key. -/
theorem cut_index (customs : List String) (key rest : List Char) :
    cut customs .afterField ('[' :: escapeIndex key ++ ']' :: rest) =
      ⟨.index, key, '[' :: escapeIndex key ++ [']'], rest, none⟩ := by
  have hblank : Text.isBlank '[' = false := by decide
  simp [cut, cutPlain, hblank, cutIndexPiece, cutIndex_escapeIndex, unescape_escapeIndex]

theorem operatorAt_fieldChar (customs : List String) {c : Char} (hc : isFieldChar c = true)
    (rest : List Char) : operatorAt customs (c :: rest) = none := by
  unfold operatorAt
  split
  case h_14 => rfl
  all_goals
    obtain ⟨rfl, -⟩ := List.cons.inj ‹_›
    exact absurd hc (by decide)

/-- A field character begins no token but a field name. -/
theorem cutPlain_fieldChar (customs : List String) (afterField : Bool) {c : Char}
    (hc : isFieldChar c = true) (rest : List Char) :
    cutPlain customs afterField (c :: rest) =
      .verbatim .field ((c :: rest).takeWhile isFieldChar) ((c :: rest).dropWhile isFieldChar) := by
  have hblank : Text.isBlank c = false := by
    rw [Bool.eq_false_iff]
    intro h
    simp [isFieldChar_eq_false_of_isBlank h] at hc
  have hbracket : c ≠ '[' := by
    rintro rfl
    exact absurd hc (by decide)
  unfold cutPlain
  split
  case h_1 => simp at *
  case h_7 heq =>
    obtain ⟨rfl, rfl⟩ := List.cons.inj heq
    simp [hblank, hbracket, cutWord, operatorAt_fieldChar customs hc, hc]
  all_goals
    obtain ⟨rfl, -⟩ := List.cons.inj ‹_›
    exact absurd hc (by decide)

/-- A field name is cut off in front of every text that does not begin with a field character. -/
theorem cut_field (customs : List String) {mode : Mode} (hmode : mode ≠ .value)
    {name rest : List Char} (hne : name ≠ []) (hname : ∀ c ∈ name, isFieldChar c = true)
    (hrest : ∀ c ∈ rest.head?, isFieldChar c = false) :
    cut customs mode (name ++ rest) = .verbatim .field name rest := by
  have htake : (name ++ rest).takeWhile isFieldChar = name := by
    rw [List.takeWhile_append_of_pos hname]
    cases rest <;> simp_all
  have hdrop : (name ++ rest).dropWhile isFieldChar = rest := by
    rw [List.dropWhile_append_of_pos hname]
    cases rest <;> simp_all
  have hplain : ∀ afterField,
      cutPlain customs afterField (name ++ rest) = .verbatim .field name rest := by
    intro afterField
    obtain ⟨c, cs, rfl⟩ := List.exists_cons_of_ne_nil hne
    rw [List.cons_append, cutPlain_fieldChar customs afterField (hname c (by simp)),
      ← List.cons_append, htake, hdrop]
  cases mode with
  | value => exact absurd rfl hmode
  | plain => exact hplain false
  | afterField => exact hplain true

/-! ## Operators. -/

theorem exists_of_isOperatorName {name : String} (h : isOperatorName name = true) :
    ∃ cs, name.toList = '#' :: cs ∧ ∀ c ∈ cs, isFieldChar c = true := by
  unfold isOperatorName at h
  split at h
  · rename_i cs hname
    simp only [Bool.and_eq_true, List.all_eq_true] at h
    exact ⟨cs, hname, h.2⟩
  · cases h

/-- A custom operator is found where the text behind it does not make its name longer. -/
theorem longestName_self {customs : List String}
    (hcustoms : ∀ name ∈ customs, isOperatorName name = true) {name : String}
    (hname : name ∈ customs) {rest : List Char}
    (hrest : ∀ c ∈ rest.head?, isFieldChar c = false) :
    longestName customs (name.toList ++ rest) = some name := by
  refine longestName_eq_some_iff.2 ⟨hname, List.prefix_append _ _, fun other hother hprefix => ?_⟩
  rw [← String.length_toList, ← String.length_toList]
  rcases List.prefix_or_prefix_of_prefix hprefix (List.prefix_append name.toList rest) with h | h
  · exact h.length_le
  · obtain ⟨tail, htail⟩ := h
    rw [← htail, List.prefix_append_right_inj] at hprefix
    cases tail with
    | nil => simp [← htail]
    | cons c tail =>
      -- The longer name would go on with the first character of the rest.
      obtain ⟨cs, hcs, -⟩ := exists_of_isOperatorName (hcustoms name hname)
      obtain ⟨ds, hds, hfield⟩ := exists_of_isOperatorName (hcustoms other hother)
      rw [hcs, hds, List.cons_append] at htail
      have hc : isFieldChar c = true := hfield c (by simp [← (List.cons.inj htail).2])
      obtain ⟨rest', rfl⟩ := hprefix
      simp [hrest c (by simp)] at hc

/-- The symbol of an operator is found where the text behind it does not extend it. -/
theorem operatorAt_symbol {customs : List String}
    (hcustoms : ∀ name ∈ customs, isOperatorName name = true) {op : Operator}
    (hop : op.IsKnown customs) {rest : List Char}
    (hrest : ∀ c ∈ rest.head?, op.mayExtendBy isFieldChar c = false) :
    operatorAt customs (op.symbol.toList ++ rest) = some op := by
  cases op with
  | custom name =>
    have hname : name ∈ customs := by
      rcases hop with h | ⟨name', hname', he⟩
      · simp [Operator.builtin] at h
      · cases he
        exact hname'
    have hlongest := longestName_self hcustoms hname hrest
    obtain ⟨cs, hcs, -⟩ := exists_of_isOperatorName (hcustoms name hname)
    show operatorAt customs (name.toList ++ rest) = _
    rw [hcs, List.cons_append] at hlongest ⊢
    rw [operatorAt, hlongest]
    rfl
  | equal =>
    show operatorAt customs ('=' :: rest) = some .equal
    unfold operatorAt
    split <;> simp_all [Operator.mayExtendBy]
  | greater =>
    show operatorAt customs ('>' :: rest) = some .greater
    unfold operatorAt
    split <;> simp_all [Operator.mayExtendBy]
  | less =>
    show operatorAt customs ('<' :: rest) = some .less
    unfold operatorAt
    split <;> simp_all [Operator.mayExtendBy]
  | _ => rfl

/-- The characters with which symbols of operators begin. -/
def symbolStarts : List Char := ['=', '!', '>', '<', '^', '$', '#']

theorem isFieldChar_symbolStart : ∀ c ∈ symbolStarts, isFieldChar c = false := by
  have hall : (symbolStarts.all fun c => !isFieldChar c) = true := by decide
  intro c hc
  simpa using List.all_eq_true.1 hall c hc

theorem isBlank_symbolStart : ∀ c ∈ symbolStarts, Text.isBlank c = false := by
  have hall : (symbolStarts.all fun c => !Text.isBlank c) = true := by decide
  intro c hc
  simpa using List.all_eq_true.1 hall c hc

theorem exists_symbol_cons {customs : List String}
    (hcustoms : ∀ name ∈ customs, isOperatorName name = true) {op : Operator}
    (hop : op.IsKnown customs) : ∃ c ∈ symbolStarts, ∃ cs, op.symbol.toList = c :: cs := by
  rcases hop with hop | ⟨name, hname, rfl⟩
  · simp only [Operator.builtin, List.mem_cons, List.not_mem_nil, or_false] at hop
    rcases hop with rfl | rfl | rfl | rfl | rfl | rfl | rfl | rfl | rfl | rfl | rfl | rfl <;>
      exact ⟨_, by decide, _, rfl⟩
  · obtain ⟨cs, hcs, -⟩ := exists_of_isOperatorName (hcustoms name hname)
    exact ⟨'#', by decide, cs, hcs⟩

theorem cutPlain_symbolStart (customs : List String) (afterField : Bool) {c : Char}
    (hc : c ∈ symbolStarts) (rest : List Char) :
    cutPlain customs afterField (c :: rest) = cutWord customs c rest := by
  have hblank := isBlank_symbolStart c hc
  simp only [symbolStarts, List.mem_cons, List.not_mem_nil, or_false] at hc
  rcases hc with rfl | rfl | rfl | rfl | rfl | rfl | rfl <;> simp [cutPlain, hblank]

/-- An operator is cut off in front of every text that does not extend it. -/
theorem cut_operator {customs : List String}
    (hcustoms : ∀ name ∈ customs, isOperatorName name = true) {mode : Mode} (hmode : mode ≠ .value)
    {op : Operator} (hop : op.IsKnown customs) {rest : List Char}
    (hrest : ∀ c ∈ rest.head?, op.mayExtendBy isFieldChar c = false) :
    cut customs mode (op.symbol.toList ++ rest) =
      ⟨.operator op, op.symbol.toList, op.symbol.toList, rest, none⟩ := by
  have hplain : ∀ afterField, cutPlain customs afterField (op.symbol.toList ++ rest) =
      ⟨.operator op, op.symbol.toList, op.symbol.toList, rest, none⟩ := by
    intro afterField
    have hat := operatorAt_symbol hcustoms hop hrest
    obtain ⟨c, hc, cs, hcs⟩ := exists_symbol_cons hcustoms hop
    have hlength : op.symbol.length = (c :: cs).length := by rw [← hcs, String.length_toList]
    rw [hcs, List.cons_append] at hat ⊢
    rw [cutPlain_symbolStart customs afterField hc, cutWord, hat]
    simp [hlength, hcs]
  cases mode with
  | value => exact absurd rfl hmode
  | plain => exact hplain false
  | afterField => exact hplain true

/-! ## Parentheses, conjunctions and marks. -/

theorem cut_openParen (customs : List String) {mode : Mode} (hmode : mode ≠ .value)
    (rest : List Char) : cut customs mode ('(' :: rest) = .verbatim .openParen ['('] rest := by
  cases mode with
  | value => exact absurd rfl hmode
  | plain => rfl
  | afterField => rfl

theorem cut_closeParen (customs : List String) {mode : Mode} (hmode : mode ≠ .value)
    (rest : List Char) : cut customs mode (')' :: rest) = .verbatim .closeParen [')'] rest := by
  cases mode with
  | value => exact absurd rfl hmode
  | plain => rfl
  | afterField => rfl

theorem cut_conjunction (customs : List String) {mode : Mode} (hmode : mode ≠ .value)
    (c : Conjunction) (rest : List Char) :
    cut customs mode (c.symbol :: rest) = .verbatim (.conjunction c) [c.symbol] rest := by
  cases mode with
  | value => exact absurd rfl hmode
  | plain => cases c <;> rfl
  | afterField => cases c <;> rfl

theorem cut_mark (customs : List String) {mode : Mode} (hmode : mode ≠ .value)
    (rest : List Char) :
    cut customs mode ('/' :: 'i' :: rest) = .verbatim .ignoreCase ['/', 'i'] rest := by
  cases mode with
  | value => exact absurd rfl hmode
  | plain => rfl
  | afterField => rfl

end FilterQuery
