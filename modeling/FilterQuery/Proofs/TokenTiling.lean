import FilterQuery.Proofs.ScanTokens
import Mathlib.Data.List.DropRight
import Mathlib.Data.List.Forall2
import Mathlib.Data.List.Induction

/-!
# Tokens cover the text

The tokens of a text stand side by side: cut at their positions, the text falls into one slice for
each token, and nothing of it is left over. What a token says is its slice, or for values and
indexes its slice without the escapes. A backslash is itself escaped by one before it, so that a
character is literal behind an odd number of them.

## Key results

- `endsValueAt_cutValue`: a value goes up to the first place where an unescaped delimiter or `/i` is
- `isUnclosed_of_cutIndex`: an index goes up to its first unescaped bracket
- `covers_cut`: what a piece says of the characters that it covers
- `isTokenization_scanFrom`: the tokens from any place on cover what is left of the text
- `scan_isTokenization`: the tokens of a text cover it
-/

namespace FilterQuery

/-! ## Slices and what tokens say about them. -/

/-- The text cut at the given positions: each slice goes up to the next position, the last one up to
the end. -/
def slices (text : List Char) : List Nat → List (List Char)
  | [] => []
  | [i] => [text.drop i]
  | i :: j :: positions => (text.drop i).take (j - i) :: slices text (j :: positions)

/-- Whether the character at a place is literal: the backslashes right before it are odd in
number. -/
def isEscaped (text : List Char) (i : Nat) : Bool :=
  ((text.take i).rtakeWhile (· == '\\')).length % 2 == 1

/-- Whether at a place there is a delimiter or the mark `/i`, and no backslash makes it literal. -/
def endsValueAt (text : List Char) (i : Nat) : Bool :=
  !isEscaped text i &&
    match text.drop i with
    | [] => false
    | c :: rest => isValueDelimiter c || startsIgnoreCase (c :: rest)

/-- Whether every closing bracket in the text is literal. -/
def IsUnclosed (text : List Char) : Prop := ∀ i, text[i]? = some ']' → isEscaped text i = true

/-- How what a token of some kind says is related to its slice, at the front of what is left of the
text. -/
def TokenKind.Covers (kind : TokenKind) (said slice left : List Char) : Prop :=
  match kind with
  | .value =>
    unescape ['\\'] slice = said ∧ (∀ i < slice.length, endsValueAt left i = false) ∧
      (slice = left ∨ endsValueAt left slice.length = true)
  | .index =>
    ∃ body, slice = '[' :: body ++ [']'] ∧ unescape [] body = said ∧ IsUnclosed body ∧
      isEscaped body body.length = false
  | .bad =>
    (∃ c, slice = [c] ∧ said = [c]) ∨
      ∃ body, slice = '[' :: body ∧ slice = left ∧ unescape [] body = said ∧ IsUnclosed body
  | _ => slice = said

/-- Whether a token is right about a slice that begins at its position. -/
def Token.Covers (text : List Char) (token : Token) (slice : List Char) : Prop :=
  token.kind.Covers token.text.toList slice (text.drop token.position)

/-- Whether tokens and diagnostics tell of all characters of a text from a position on. -/
structure IsTokenization (text : List Char) (start : Nat) (tokens : List Token)
    (diagnostics : List Diagnostic) : Prop where
  /-- The end of the text is the last token, and no other. -/
  ends : ∃ others, tokens = others ++ [⟨.finish, text.length, ""⟩] ∧
    ∀ token ∈ others, token.kind ≠ .finish
  starts : ∃ token others, tokens = token :: others ∧ token.position = start
  ascending : (tokens.map (·.position)).Pairwise (· ≤ ·)
  /-- Every token is right about its slice, and there are as many slices as tokens. -/
  covered : List.Forall₂ (Token.Covers text) tokens (slices text (tokens.map (·.position)))
  /-- Nothing is left out. -/
  whole : (slices text (tokens.map (·.position))).flatten = text.drop start
  /-- Exactly the bad tokens are diagnosed, in order. -/
  diagnosed : diagnostics.map (·.position) =
    (tokens.filter (·.kind = .bad)).map (·.position)

/-- What `next` gives after it was called some number of times. -/
def Cursor.call (customs : List String) (cursor : Cursor) : Nat → Token × Option Diagnostic
  | 0 => ((cursor.next customs).1, (cursor.next customs).2.1)
  | k + 1 => (cursor.next customs).2.2.call customs k

/-! ## Escaped places. -/

theorem rtakeWhile_cons_of_neg {α : Type*} {p : α → Bool} {x : α} (h : p x = false)
    (xs : List α) : (x :: xs).rtakeWhile p = xs.rtakeWhile p := by
  induction xs using List.reverseRecOn with
  | nil => simp [List.rtakeWhile, h]
  | append_singleton xs y ih =>
    rw [← List.cons_append, List.rtakeWhile_concat, List.rtakeWhile_concat, ih]

/-- In front of a run, one element that belongs to it and another one do not change whether its
length is odd. -/
theorem length_rtakeWhile_cons_cons {α : Type*} {p : α → Bool} {x : α} (h : p x = true) (y : α)
    (xs : List α) :
    ((x :: y :: xs).rtakeWhile p).length % 2 = (xs.rtakeWhile p).length % 2 := by
  induction xs using List.reverseRecOn with
  | nil => cases hy : p y <;> simp [List.rtakeWhile, h, hy]
  | append_singleton xs z ih =>
    rw [← List.cons_append, ← List.cons_append, List.rtakeWhile_concat, List.rtakeWhile_concat]
    split
    · rw [List.length_append, List.length_append, Nat.add_mod, ih, ← Nat.add_mod]
    · rfl

variable {c : Char} {text : List Char}

/-- A character is no backslash if none stands alone and none in front of another character. -/
theorem ne_backslash (hlone : c = '\\' → text = [] → False)
    (hescape : ∀ d rest, c = '\\' → text = d :: rest → False) : c ≠ '\\' := fun hc => by
  cases text with
  | nil => exact hlone hc rfl
  | cons d rest => exact hescape d rest hc rfl

theorem isEscaped_zero (text : List Char) : isEscaped text 0 = false := rfl

theorem isEscaped_cons (hc : c ≠ '\\') (text : List Char) (i : Nat) :
    isEscaped (c :: text) (i + 1) = isEscaped text i := by
  rw [isEscaped, isEscaped, List.take_succ_cons, rtakeWhile_cons_of_neg (by simpa using hc)]

theorem isEscaped_one (text : List Char) : isEscaped ('\\' :: text) 1 = true := by
  simp [isEscaped, List.rtakeWhile]

theorem isEscaped_add_two (c : Char) (text : List Char) (i : Nat) :
    isEscaped ('\\' :: c :: text) (i + 2) = isEscaped text i := by
  rw [isEscaped, isEscaped, List.take_succ_cons, List.take_succ_cons,
    length_rtakeWhile_cons_cons (by simp)]

/-! ## Values. -/

theorem endsValueAt_cons (hc : c ≠ '\\') (text : List Char) (i : Nat) :
    endsValueAt (c :: text) (i + 1) = endsValueAt text i := by
  rw [endsValueAt, endsValueAt, isEscaped_cons hc, List.drop_succ_cons]

theorem endsValueAt_add_two (c : Char) (text : List Char) (i : Nat) :
    endsValueAt ('\\' :: c :: text) (i + 2) = endsValueAt text i := by
  rw [endsValueAt, endsValueAt, isEscaped_add_two, List.drop_succ_cons, List.drop_succ_cons]

theorem endsValueAt_backslash (c : Char) (text : List Char) {i : Nat} (hi : i < 2) :
    endsValueAt ('\\' :: c :: text) i = false := by
  obtain rfl | rfl : i = 0 ∨ i = 1 := by omega
  · simp [endsValueAt, isValueDelimiter, startsIgnoreCase]
  · simp [endsValueAt, isEscaped_one]

/-- A value goes up to the first place where it can end, or to the end of the text. -/
theorem endsValueAt_cutValue (text : List Char) :
    (∀ i < (cutValue text).1.length, endsValueAt text i = false) ∧
      ((cutValue text).1 = text ∨ endsValueAt text (cutValue text).1.length = true) := by
  fun_induction cutValue text with
  | case1 => exact ⟨by simp, .inl rfl⟩
  | case2 =>
    refine ⟨fun i hi => ?_, .inl rfl⟩
    obtain rfl : i = 0 := by simpa using hi
    rfl
  | case3 c rest ih =>
    refine ⟨fun i hi => ?_, ?_⟩
    · rcases Nat.lt_or_ge i 2 with h | h
      · exact endsValueAt_backslash c rest h
      · obtain ⟨i, rfl⟩ := Nat.exists_eq_add_of_le' h
        rw [endsValueAt_add_two]
        exact ih.1 i (by simpa using hi)
    · rw [List.length_cons, List.length_cons, endsValueAt_add_two]
      exact ih.2.imp_left fun h => by rw [h]
  | case4 c rest _ _ hends =>
    refine ⟨by simp, .inr ?_⟩
    simpa [endsValueAt, isEscaped_zero] using hends
  | case5 c rest hlone hescape hends ih =>
    have hc := ne_backslash hlone hescape
    refine ⟨fun i hi => ?_, ?_⟩
    · cases i with
      | zero => simpa [endsValueAt, isEscaped_zero] using hends
      | succ i =>
        rw [endsValueAt_cons hc]
        exact ih.1 i (by simpa using hi)
    · rw [List.length_cons, endsValueAt_cons hc]
      exact ih.2.imp_left fun h => by rw [h]

/-! ## Indexes. -/

theorem isUnclosed_nil : IsUnclosed [] := fun i h => by simp at h

theorem IsUnclosed.cons (hc : c ≠ '\\') (hbracket : c ≠ ']') (h : IsUnclosed text) :
    IsUnclosed (c :: text) := by
  intro i hi
  cases i with
  | zero => exact absurd (by simpa using hi) hbracket
  | succ i =>
    rw [isEscaped_cons hc]
    exact h i (by simpa using hi)

theorem IsUnclosed.backslash (c : Char) (h : IsUnclosed text) :
    IsUnclosed ('\\' :: c :: text) := by
  intro i hi
  match i with
  | 0 => exact absurd hi (by simp)
  | 1 => exact isEscaped_one _
  | i + 2 =>
    rw [isEscaped_add_two]
    exact h i (by simpa using hi)

/-- An index goes up to its first unescaped bracket. -/
theorem isUnclosed_of_cutIndex {body rest : List Char} (h : cutIndex text = some (body, rest)) :
    IsUnclosed body ∧ isEscaped body body.length = false := by
  fun_induction cutIndex text generalizing body with
  | case1 => cases h
  | case2 => cases h
  | case3 c text ih =>
    obtain ⟨⟨body, rest⟩, hbody, heq⟩ := Option.map_eq_some_iff.1 h
    cases heq
    refine ⟨(ih hbody).1.backslash c, ?_⟩
    rw [List.length_cons, List.length_cons, isEscaped_add_two]
    exact (ih hbody).2
  | case4 c text _ _ hc =>
    cases h
    exact ⟨isUnclosed_nil, rfl⟩
  | case5 c text hlone hescape hbracket ih =>
    obtain ⟨⟨body, rest⟩, hbody, heq⟩ := Option.map_eq_some_iff.1 h
    cases heq
    have hc := ne_backslash hlone hescape
    refine ⟨(ih hbody).1.cons hc (by simpa using hbracket), ?_⟩
    rw [List.length_cons, isEscaped_cons hc]
    exact (ih hbody).2

/-- A bracket that is never closed is followed by no unescaped closing bracket. -/
theorem isUnclosed_of_cutIndex_eq_none (h : cutIndex text = none) : IsUnclosed text := by
  fun_induction cutIndex text with
  | case1 => exact isUnclosed_nil
  | case2 => exact fun i hi => by simp [List.getElem?_cons] at hi
  | case3 c text ih => exact (ih (by simpa using h)).backslash c
  | case4 => cases h
  | case5 c text hlone hescape hbracket ih =>
    have hc := ne_backslash hlone hescape
    exact (ih (by simpa using h)).cons hc (by simpa using hbracket)

/-! ## Pieces. -/

/-- The symbol of an operator is what the text begins with. -/
theorem prefix_of_operatorAt {customs : List String} {op : Operator}
    (h : operatorAt customs text = some op) : op.symbol.toList <+: text := by
  unfold operatorAt at h
  split at h
  case h_13 =>
    obtain ⟨name, hname, rfl⟩ := Option.map_eq_some_iff.1 h
    exact (prefix_of_longestName hname).2
  case h_14 => cases h
  all_goals
    cases h
    exact ⟨_, rfl⟩

theorem covers_cutValuePiece (text : List Char) :
    (cutValuePiece text).kind.Covers (cutValuePiece text).text (cutValuePiece text).raw text :=
  ⟨rfl, endsValueAt_cutValue text⟩

theorem covers_cutIndexPiece (body : List Char) :
    (cutIndexPiece body).kind.Covers (cutIndexPiece body).text (cutIndexPiece body).raw
      ('[' :: body) := by
  unfold cutIndexPiece
  split
  · rename_i raw rest hcut
    exact ⟨raw, rfl, rfl, isUnclosed_of_cutIndex hcut⟩
  · rename_i hcut
    exact .inr ⟨body, rfl, rfl, rfl, isUnclosed_of_cutIndex_eq_none hcut⟩

theorem covers_cutWord (customs : List String) (c : Char) (rest : List Char) :
    (cutWord customs c rest).kind.Covers (cutWord customs c rest).text (cutWord customs c rest).raw
      (c :: rest) := by
  unfold cutWord
  split
  · rename_i op hop
    have hprefix := List.prefix_iff_eq_take.1 (prefix_of_operatorAt hop)
    rw [String.length_toList] at hprefix
    exact hprefix.symm
  · split
    · rfl
    · exact .inl ⟨c, rfl, rfl⟩

theorem covers_cutPlain (customs : List String) (afterField : Bool) (text : List Char) :
    (cutPlain customs afterField text).kind.Covers (cutPlain customs afterField text).text
      (cutPlain customs afterField text).raw text := by
  unfold cutPlain
  split
  case h_7 =>
    split
    · rfl
    · split
      · rename_i hbracket
        rw [hbracket.1]
        exact covers_cutIndexPiece _
      · exact covers_cutWord customs _ _
  all_goals rfl

/-- A piece tells of the characters that it covers. -/
theorem covers_cut (customs : List String) (mode : Mode) (text : List Char) :
    (cut customs mode text).kind.Covers (cut customs mode text).text (cut customs mode text).raw
      text := by
  cases mode with
  | value => exact covers_cutValuePiece text
  | afterField => exact covers_cutPlain customs true text
  | plain => exact covers_cutPlain customs false text

theorem eq_nil_of_kind_cutPlain {customs : List String} {afterField : Bool}
    (h : (cutPlain customs afterField text).kind = .finish) : text = [] := by
  unfold cutPlain at h
  split at h
  case h_1 => rfl
  case h_7 =>
    split at h
    · simp [Piece.verbatim] at h
    · split at h
      · unfold cutIndexPiece at h
        split at h <;> simp at h
      · unfold cutWord at h
        split at h
        · simp at h
        · split at h <;> simp [Piece.verbatim] at h
  all_goals simp [Piece.verbatim] at h

/-- The end of the text is found only there, and only where no value is expected. -/
theorem eq_nil_of_kind_cut {customs : List String} {mode : Mode}
    (h : (cut customs mode text).kind = .finish) : mode ≠ .value ∧ text = [] := by
  cases mode with
  | value => simp [cut, cutValuePiece] at h
  | plain | afterField => exact ⟨by simp, eq_nil_of_kind_cutPlain h⟩

/-! ## Tokens from a place on. -/

namespace IsTokenization

variable {start : Nat} {tokens : List Token} {diagnostics : List Diagnostic}

/-- At the end of the text there is one token, which says so. -/
theorem finish (text : List Char) :
    IsTokenization text text.length [⟨.finish, text.length, ""⟩] [] where
  ends := ⟨[], rfl, by simp⟩
  starts := ⟨_, _, rfl, rfl⟩
  ascending := by simp
  covered := by simp [slices, Token.Covers, TokenKind.Covers]
  whole := by simp [slices]
  diagnosed := rfl

/-- In front of the tokens from a place on stands one that covers the characters up to there. -/
theorem cons {token : Token} {slice : List Char} {problem : Option Problem}
    (h : IsTokenization text (token.position + slice.length) tokens diagnostics)
    (hkind : token.kind ≠ .finish) (hproblem : problem = none ↔ token.kind ≠ .bad)
    (hleft : text.drop token.position = slice ++ text.drop (token.position + slice.length))
    (hcovers : token.Covers text slice) :
    IsTokenization text token.position (token :: tokens)
      ((problem.map (⟨·, token.position⟩)).toList ++ diagnostics) := by
  obtain ⟨next, others, rfl, hnext⟩ := h.starts
  have hslices : slices text ((token :: next :: others).map (·.position)) =
      slice :: slices text ((next :: others).map (·.position)) := by
    simp only [List.map_cons, slices]
    rw [hleft, hnext, Nat.add_sub_cancel_left, List.take_left]
  constructor
  case ends =>
    obtain ⟨pieces, hpieces, hnot⟩ := h.ends
    exact ⟨token :: pieces, by rw [hpieces, List.cons_append],
      List.forall_mem_cons.2 ⟨hkind, hnot⟩⟩
  case starts => exact ⟨token, _, rfl, rfl⟩
  case ascending =>
    -- The next token is behind this one, and all others are behind the next one.
    have hbehind : token.position ≤ next.position := by omega
    have hothers := h.ascending
    rw [List.map_cons, List.pairwise_cons] at hothers ⊢
    refine ⟨fun i hi => ?_, h.ascending⟩
    rcases List.mem_cons.1 hi with rfl | hi
    · exact hbehind
    · exact hbehind.trans (hothers.1 i hi)
  case covered =>
    rw [hslices]
    exact .cons hcovers h.covered
  case whole => rw [hslices, List.flatten_cons, h.whole, hleft]
  case diagnosed =>
    cases problem with
    | none =>
      rw [List.filter_cons_of_neg (by simpa using hproblem.1 rfl)]
      exact h.diagnosed
    | some problem =>
      have hbad : token.kind = .bad := by simpa using hproblem
      rw [List.filter_cons_of_pos (by simpa using hbad), List.map_cons, ← h.diagnosed]
      rfl

end IsTokenization

/-- Whether a place lies in a text: what is left there is what the text has from its position on. -/
def Cursor.LiesIn (cursor : Cursor) (text : List Char) : Prop :=
  cursor.position ≤ text.length ∧ cursor.rest = text.drop cursor.position

theorem Cursor.LiesIn.next {cursor : Cursor} (h : cursor.LiesIn text) (customs : List String) :
    (cursor.next customs).2.2.LiesIn text := by
  have happend := (cut_raw_append_rest customs cursor.mode cursor.rest).trans h.2
  unfold Cursor.next LiesIn
  dsimp only
  generalize cut customs cursor.mode cursor.rest = piece at happend
  have hlength := congrArg List.length happend
  rw [List.length_append, List.length_drop] at hlength
  have hposition := h.1
  refine ⟨by omega, ?_⟩
  rw [← List.drop_drop, ← happend, List.drop_left]

/-- A place at which the end of the text is found is the end. -/
theorem Cursor.LiesIn.eq_of_finish {cursor : Cursor} (h : cursor.LiesIn text)
    {customs : List String} (hfinish : (cursor.next customs).1.kind = .finish) :
    cursor.mode ≠ .value ∧ cursor = ⟨cursor.mode, text.length, []⟩ := by
  obtain ⟨hmode, hrest⟩ := eq_nil_of_kind_cut hfinish
  have hposition : cursor.position = text.length := by
    have hdrop := List.drop_eq_nil_iff.1 (h.2.symm.trans hrest)
    exact Nat.le_antisymm h.1 hdrop
  exact ⟨hmode, by rw [← hposition, ← hrest]⟩

/-- At the end of a text nothing but the end is found, however often `next` is called. -/
theorem Cursor.call_nil (customs : List String) {mode : Mode} (hmode : mode ≠ .value)
    (position k : Nat) :
    (⟨mode, position, []⟩ : Cursor).call customs k = (⟨.finish, position, ""⟩, none) := by
  have hnext : (⟨mode, position, []⟩ : Cursor).next customs =
      (⟨.finish, position, ""⟩, none, ⟨.plain, position, []⟩) := by
    cases mode with
    | value => exact absurd rfl hmode
    | plain | afterField => rfl
  induction k generalizing mode with
  | zero => rw [call, hnext]
  | succ k ih =>
    rw [call, hnext]
    exact ih (by simp) rfl

/-- Called time after time, `next` gives the tokens of a text one by one, and then its end. -/
theorem Cursor.call_eq_getD (customs : List String) {cursor : Cursor} (h : cursor.LiesIn text)
    (k : Nat) :
    cursor.call customs k =
      (scanFrom customs cursor).getD k (⟨.finish, text.length, ""⟩, none) := by
  induction k generalizing cursor with
  | zero =>
    rw [scanFrom]
    split <;> rfl
  | succ k ih =>
    by_cases hfinish : (cursor.next customs).1.kind = .finish
    · obtain ⟨hmode, hcursor⟩ := h.eq_of_finish hfinish
      rw [hcursor, call_nil customs hmode, scanFrom_nil customs hmode]
      rfl
    · rw [scanFrom, if_neg hfinish, List.getD_cons_succ, ← ih (h.next customs)]
      rfl

/-- There are no more tokens than the places they are read from allow. -/
theorem length_scanFrom_le (customs : List String) (cursor : Cursor) :
    (scanFrom customs cursor).length ≤ cursor.measure + 1 := by
  fun_induction scanFrom customs cursor with
  | case1 cursor hfinish => simp
  | case2 cursor hfinish ih =>
    have := Cursor.measure_next_lt customs hfinish
    rw [List.length_cons]
    omega

/-- The tokens from a place of a text on cover what is left of it. -/
theorem isTokenization_scanFrom (customs : List String) {cursor : Cursor}
    (h : cursor.LiesIn text) :
    IsTokenization text cursor.position ((scanFrom customs cursor).map (·.1))
      ((scanFrom customs cursor).filterMap (·.2)) := by
  fun_induction scanFrom customs cursor with
  | case1 cursor hfinish =>
    obtain ⟨hmode, hcursor⟩ := h.eq_of_finish hfinish
    rw [hcursor]
    cases hcase : cursor.mode with
    | value => exact absurd hcase hmode
    | plain | afterField => exact .finish text
  | case2 cursor hfinish ih =>
    have hnext := ih (h.next customs)
    have hleft : text.drop cursor.position = (cut customs cursor.mode cursor.rest).raw ++
        text.drop (cursor.position + (cut customs cursor.mode cursor.rest).raw.length) := by
      rw [← h.2]
      exact (cut_raw_append_rest customs cursor.mode cursor.rest).symm.trans
        (congrArg _ (h.next customs).2)
    have hcovers :
        (cursor.next customs).1.Covers text (cut customs cursor.mode cursor.rest).raw := by
      simpa [Token.Covers, Cursor.next, ← h.2] using covers_cut customs cursor.mode cursor.rest
    have hcons := hnext.cons hfinish (fits_cut customs cursor.mode cursor.rest).1 hleft hcovers
    rw [List.map_cons, List.filterMap_cons]
    -- What is wrong with the piece, if anything, is the first diagnostic.
    unfold Cursor.next at hcons ⊢
    dsimp only at hcons ⊢
    cases hproblem : (cut customs cursor.mode cursor.rest).problem with
    | none => simpa [hproblem] using hcons
    | some problem => simpa [hproblem] using hcons

/-- The tokens of a text cover it, whatever names custom operators have. There are at most two
tokens for each character and one for the end, and these are what `next` gives when it is called
time after time, until it gives nothing but the end. -/
theorem scan_isTokenization (customs : List String) (text : String) :
    IsTokenization text.toList 0 (scan customs text).1 (scan customs text).2 ∧
      (scan customs text).1.length ≤ 2 * text.length + 1 ∧
      ∀ k, (Cursor.start text).call customs k =
        (scanFrom customs (.start text)).getD k (⟨.finish, text.length, ""⟩, none) := by
  have hstart : (Cursor.start text).LiesIn text.toList := ⟨Nat.zero_le _, rfl⟩
  rw [← String.length_toList]
  refine ⟨isTokenization_scanFrom customs hstart, ?_, Cursor.call_eq_getD customs hstart⟩
  rw [scan, List.length_map]
  exact length_scanFrom_le customs (.start text)

-- The first backslash makes the comma a part of the value, and the last one stands for itself.
example : (scan [] "f=\\,\\").1.map (·.text) = ["f", "=", ",\\", ""] ∧
    slices "f=\\,\\".toList ((scan [] "f=\\,\\").1.map (·.position)) =
      [['f'], ['='], ['\\', ',', '\\'], []] := by
  cbv

end FilterQuery
