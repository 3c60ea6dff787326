import FilterQuery.Text.Ranges

/-! # White space

`isBlank` is the Unicode property `White_Space`.  `trim` removes it from both ends of a text and
`words` cuts a text at it. -/

namespace FilterQuery.Text

/-- Characters with the property `White_Space`. -/
def blankRanges : CodeRanges :=
  [(0x9, 0xd), (0x20, 0x20), (0x85, 0x85), (0xa0, 0xa0), (0x1680, 0x1680), (0x2000, 0x200a),
   (0x2028, 0x2029), (0x202f, 0x202f), (0x205f, 0x205f), (0x3000, 0x3000)]

/-- White space of all scripts. -/
def isBlank (c : Char) : Bool := blankRanges.contains c

theorem isBlank_of_isWhitespace {c : Char} (h : c.isWhitespace = true) : isBlank c = true := by
  simp only [Char.isWhitespace, Bool.or_eq_true, decide_eq_true_eq] at h
  rcases h with ((rfl | rfl) | rfl) | rfl <;> decide

/-- The characters of ASCII that leave a mark are no white space. -/
theorem isBlank_eq_false_of_visible {c : Char} (hlow : 32 < c.toNat) (hhigh : c.toNat < 127) :
    isBlank c = false := by
  rw [Bool.eq_false_iff]
  intro hblank
  obtain ⟨range, hrange, hlo, hhi⟩ := CodeRanges.contains_iff.1 hblank
  have hout : ∀ range ∈ blankRanges, range.2 ≤ 32 ∨ 127 ≤ range.1 := by decide
  have hside := hout range hrange
  omega

/-- Digits are no white space. -/
theorem isBlank_eq_false_of_isDigit {c : Char} (h : c.isDigit = true) : isBlank c = false := by
  have hcode : 48 ≤ c.toNat ∧ c.toNat ≤ 57 := by
    simpa [Char.isDigit, UInt32.le_iff_toNat_le] using h
  exact isBlank_eq_false_of_visible (by omega) (by omega)

/-- Letters of ASCII are no white space. -/
theorem isBlank_eq_false_of_isAlpha {c : Char} (h : c.isAlpha = true) : isBlank c = false := by
  have hletter : (c.isUpper || c.isLower) = true := h
  have hcode : 65 ≤ c.toNat ∧ c.toNat ≤ 90 ∨ 97 ≤ c.toNat ∧ c.toNat ≤ 122 := by
    rcases Bool.or_eq_true_iff.1 hletter with hupper | hlower
    · exact .inl (of_decide_eq_true hupper)
    · obtain ⟨hlo, hhi⟩ := Bool.and_eq_true_iff.1 hlower
      exact .inr ⟨of_decide_eq_true hlo, of_decide_eq_true hhi⟩
  exact isBlank_eq_false_of_visible (by omega) (by omega)

/-- The text without the white space at its beginning. -/
def trimStart (cs : List Char) : List Char := cs.dropWhile isBlank

/-- The text without the white space at its end. -/
def trimEnd (cs : List Char) : List Char := (cs.reverse.dropWhile isBlank).reverse

/-- The text without the white space at its two ends. -/
def trim (cs : List Char) : List Char := trimEnd (trimStart cs)

theorem dropWhile_isBlank_append {lead cs : List Char} (hlead : ∀ c ∈ lead, isBlank c = true)
    (hcs : ∀ c ∈ cs, isBlank c = false) (hne : cs ≠ []) (rest : List Char) :
    (lead ++ (cs ++ rest)).dropWhile isBlank = cs ++ rest := by
  rw [List.dropWhile_append_of_pos hlead]
  obtain ⟨c, cs, rfl⟩ := List.exists_cons_of_ne_nil hne
  have hc : isBlank c = false := hcs c List.mem_cons_self
  simp [hc]

/-- White space around a text that has none in it is removed, and nothing else. -/
theorem trim_append {lead cs trail : List Char} (hlead : ∀ c ∈ lead, isBlank c = true)
    (hcs : ∀ c ∈ cs, isBlank c = false) (hne : cs ≠ []) (htrail : ∀ c ∈ trail, isBlank c = true) :
    trim (lead ++ cs ++ trail) = cs := by
  have hstart : trimStart (lead ++ cs ++ trail) = cs ++ trail := by
    rw [trimStart, List.append_assoc, dropWhile_isBlank_append hlead hcs hne]
  -- Backwards the text stands between nothing and the white space behind it.
  have hend : (trail.reverse ++ (cs.reverse ++ [])).dropWhile isBlank = cs.reverse ++ [] := by
    apply dropWhile_isBlank_append
    · exact fun c hc => htrail c (List.mem_reverse.1 hc)
    · exact fun c hc => hcs c (List.mem_reverse.1 hc)
    · exact mt List.reverse_eq_nil_iff.1 hne
  rw [List.append_nil, ← List.reverse_append] at hend
  rw [trim, hstart, trimEnd, hend, List.reverse_reverse]

/-- The maximal pieces of the text without white space, in order. -/
def words (cs : List Char) : List (List Char) :=
  (cs.splitOnP isBlank).filter (!·.isEmpty)

end FilterQuery.Text
