import FilterQuery.Filter.Token.Scan
import Mathlib.Data.List.Chain

/-!
# The tokens of a text

Facts about every token that `scan` finds, from the mode and the text that it was cut from.

## Key results

- `fits_cut`: exactly the bad pieces have a problem, fields hold field characters, and operators are
  built in or have a name that was given
- `isChain_scanFrom`: what may stand directly behind a token
- `longestName_eq_some_iff`: a custom operator is the longest name that begins the text
-/

namespace FilterQuery

/-- The operator is built in or has one of the given names. -/
def Operator.IsKnown (customs : List String) (op : Operator) : Prop :=
  op ∈ Operator.builtin ∨ ∃ name ∈ customs, op = .custom name

/-! ## Custom operators. -/

theorem prefix_of_longestName {names : List String} {text : List Char} {name : String}
    (h : longestName names text = some name) : name ∈ names ∧ name.toList <+: text := by
  induction names generalizing name with
  | nil => cases h
  | cons first names ih =>
    simp only [longestName] at h
    split at h
    · rename_i hfirst
      have hfirst := List.isPrefixOf_iff_prefix.1 hfirst
      split at h
      · rename_i other hother
        split at h
        · cases h
          exact ⟨by simp, hfirst⟩
        · cases h
          exact ⟨by simp [(ih hother).1], (ih hother).2⟩
      · cases h
        exact ⟨by simp, hfirst⟩
    · exact ⟨by simp [(ih h).1], (ih h).2⟩

theorem length_le_of_longestName {names : List String} {text : List Char} {name : String}
    (hname : name ∈ names) (h : name.toList <+: text) :
    ∃ longest, longestName names text = some longest ∧ name.length ≤ longest.length := by
  induction names with
  | nil => cases hname
  | cons first names ih =>
    simp only [longestName]
    rcases List.mem_cons.1 hname with rfl | hname
    · rw [if_pos (List.isPrefixOf_iff_prefix.2 h)]
      split
      · split
        · exact ⟨_, rfl, Nat.le_refl _⟩
        · exact ⟨_, rfl, by omega⟩
      · exact ⟨_, rfl, Nat.le_refl _⟩
    · obtain ⟨longest, hlongest, hle⟩ := ih hname
      rw [hlongest]
      split
      · dsimp only
        split
        · exact ⟨_, rfl, by omega⟩
        · exact ⟨_, rfl, hle⟩
      · exact ⟨_, rfl, hle⟩

/-- Two names of the same length that begin the same text are equal. -/
theorem eq_of_prefix {a b : String} {text : List Char} (ha : a.toList <+: text)
    (hb : b.toList <+: text) (hlength : a.length = b.length) : a = b := by
  apply String.toList_injective
  have hlength : a.toList.length = b.toList.length := by
    rw [String.length_toList, String.length_toList, hlength]
  exact (List.prefix_of_prefix_length_le ha hb hlength.le).eq_of_length hlength

/-- The longest name is the one that begins the text and is no shorter than any other that does. -/
theorem longestName_eq_some_iff {names : List String} {text : List Char} {name : String} :
    longestName names text = some name ↔
      name ∈ names ∧ name.toList <+: text ∧
        ∀ other ∈ names, other.toList <+: text → other.length ≤ name.length := by
  constructor
  · intro h
    refine ⟨(prefix_of_longestName h).1, (prefix_of_longestName h).2, fun other ho hp => ?_⟩
    obtain ⟨longest, hlongest, hle⟩ := length_le_of_longestName ho hp
    rw [h] at hlongest
    cases hlongest
    exact hle
  · rintro ⟨hname, hprefix, hmax⟩
    obtain ⟨longest, hlongest, hle⟩ := length_le_of_longestName hname hprefix
    obtain ⟨hmem, hlongestPrefix⟩ := prefix_of_longestName hlongest
    have := hmax longest hmem hlongestPrefix
    rw [hlongest, eq_of_prefix hlongestPrefix hprefix (by omega)]

theorem isKnown_of_operatorAt {customs : List String} {text : List Char} {op : Operator}
    (h : operatorAt customs text = some op) : op.IsKnown customs := by
  unfold operatorAt at h
  split at h
  case h_13 =>
    obtain ⟨name, hname, rfl⟩ := Option.map_eq_some_iff.1 h
    exact .inr ⟨name, (prefix_of_longestName hname).1, rfl⟩
  case h_14 => cases h
  all_goals
    cases h
    exact .inl (by decide)

/-! ## Pieces. -/

/-- Whether a value ends in front of the text. -/
def endsValue : List Char → Bool
  | [] => true
  | c :: rest => isValueDelimiter c || startsIgnoreCase (c :: rest)

theorem startsIgnoreCase_iff {text : List Char} :
    startsIgnoreCase text = true ↔ ∃ rest, text = '/' :: 'i' :: rest := by
  unfold startsIgnoreCase
  split <;> simp_all

/-- What the kind of a piece says about it. -/
def Piece.Fits (customs : List String) (piece : Piece) : Prop :=
  (piece.problem = none ↔ piece.kind ≠ .bad) ∧
  match piece.kind with
  | .field => piece.text ≠ [] ∧ ∀ c ∈ piece.text, isFieldChar c = true
  | .operator op => op.IsKnown customs
  | .value => endsValue piece.rest = true
  | _ => True

theorem endsValue_cutValue (text : List Char) : endsValue (cutValue text).2 = true := by
  fun_induction cutValue text <;> simp_all [endsValue]

theorem fits_cutWord (customs : List String) (c : Char) (rest : List Char) :
    (cutWord customs c rest).Fits customs := by
  unfold cutWord
  split
  · rename_i op hop
    exact ⟨by simp, isKnown_of_operatorAt hop⟩
  · split
    · rename_i hc
      refine ⟨by simp [Piece.verbatim], by simp [Piece.verbatim, hc], ?_⟩
      exact List.all_eq_true.1 List.all_takeWhile
    · exact ⟨by simp, trivial⟩

theorem fits_cutIndexPiece (customs : List String) (body : List Char) :
    (cutIndexPiece body).Fits customs := by
  unfold cutIndexPiece
  split
  · exact ⟨by simp, trivial⟩
  · exact ⟨by simp, trivial⟩

theorem fits_cutPlain (customs : List String) (afterField : Bool) (text : List Char) :
    (cutPlain customs afterField text).Fits customs := by
  unfold cutPlain
  split
  case h_7 =>
    split
    · exact ⟨by simp [Piece.verbatim], trivial⟩
    · split
      · exact fits_cutIndexPiece _ _
      · exact fits_cutWord _ _ _
  all_goals exact ⟨by simp [Piece.verbatim], trivial⟩

/-- Exactly the bad pieces have a problem, fields hold field characters, operators are known, and
values go as far as they can. -/
theorem fits_cut (customs : List String) (mode : Mode) (text : List Char) :
    (cut customs mode text).Fits customs := by
  cases mode with
  | value => exact ⟨by simp [cut, cutValuePiece], endsValue_cutValue text⟩
  | afterField => exact fits_cutPlain customs true text
  | plain => exact fits_cutPlain customs false text

/-- Where a value ends, no operator begins and no blank. -/
theorem kind_cutPlain_of_endsValue {customs : List String} {afterField : Bool} {text : List Char}
    (h : endsValue text = true) :
    (cutPlain customs afterField text).kind ≠ .blank ∧
      ∀ op, (cutPlain customs afterField text).kind ≠ .operator op := by
  unfold cutPlain
  split
  case h_7 c rest h1 h2 h3 h4 h5 =>
    -- The patterns before this one have dealt with all that ends a value.
    simp only [endsValue, isValueDelimiter, Bool.or_eq_true, beq_iff_eq] at h
    rcases h with (((hc | hc) | hc) | hc) | h
    · exact (h3 hc).elim
    · exact (h4 hc).elim
    · exact (h1 hc).elim
    · exact (h2 hc).elim
    · obtain ⟨tail, htail⟩ := startsIgnoreCase_iff.1 h
      obtain ⟨hc, hrest⟩ := List.cons.inj htail
      exact (h5 tail hc hrest).elim
  all_goals simp [Piece.verbatim]

/-! ## Tokens. -/

/-- Every token is cut off the front of some text. -/
theorem exists_of_mem_scanFrom {customs : List String} {cursor : Cursor}
    {p : Token × Option Diagnostic} (h : p ∈ scanFrom customs cursor) :
    ∃ at_ : Cursor, p = ((at_.next customs).1, (at_.next customs).2.1) := by
  fun_induction scanFrom customs cursor with
  | case1 cursor hfinish => exact ⟨cursor, List.mem_singleton.1 h⟩
  | case2 cursor hfinish ih =>
    rcases List.mem_cons.1 h with rfl | h
    · exact ⟨cursor, rfl⟩
    · exact ih h

/-- The tokens of a text are followed by one of kind `finish`, the only one of that kind. -/
theorem scanFrom_eq_append (customs : List String) (cursor : Cursor) :
    ∃ pieces last, scanFrom customs cursor = pieces ++ [last] ∧ last.1.kind = .finish ∧
      ∀ p ∈ pieces, p.1.kind ≠ .finish := by
  fun_induction scanFrom customs cursor with
  | case1 cursor hfinish => exact ⟨[], _, rfl, hfinish, by simp⟩
  | case2 cursor hfinish ih =>
    obtain ⟨pieces, last, hpieces, hlast, hne⟩ := ih
    refine ⟨_ :: pieces, last, by rw [hpieces, List.cons_append], hlast, fun p hp => ?_⟩
    rcases List.mem_cons.1 hp with rfl | hp
    · exact hfinish
    · exact hne p hp

/-- A piece other than the end of the text is the next token; the others come from behind it. -/
theorem scanFrom_of_cut {customs : List String} {mode : Mode} {text : List Char} {piece : Piece}
    (h : cut customs mode text = piece) (hfinish : piece.kind ≠ .finish) (position : Nat) :
    scanFrom customs ⟨mode, position, text⟩ =
      (⟨piece.kind, position, String.ofList piece.text⟩, piece.problem.map (⟨·, position⟩)) ::
        scanFrom customs ⟨.after piece.kind, position + piece.raw.length, piece.rest⟩ := by
  subst h
  rw [scanFrom]
  exact if_neg hfinish

/-- At the end of the text, unless a value is expected, there is only the token that says so. -/
theorem scanFrom_nil (customs : List String) {mode : Mode} (hmode : mode ≠ .value)
    (position : Nat) :
    scanFrom customs ⟨mode, position, []⟩ = [(⟨.finish, position, ""⟩, none)] := by
  cases mode with
  | value => exact absurd rfl hmode
  | plain | afterField => rw [scanFrom]; rfl

/-- What may stand directly behind a token: what is cut in the mode that the token leaves, and
behind a value only where values end. -/
def MayFollow (customs : List String) (a b : Token) : Prop :=
  ∃ text, b.kind = (cut customs (.after a.kind) text).kind ∧
    (a.kind = .value → endsValue text = true)

/-- Every token but the last one is followed by what may follow it. -/
theorem isChain_scanFrom (customs : List String) (cursor : Cursor) :
    ((scanFrom customs cursor).map (·.1)).IsChain (MayFollow customs) := by
  fun_induction scanFrom customs cursor with
  | case1 cursor hfinish => exact .singleton _
  | case2 cursor hfinish ih =>
    rw [List.map_cons, List.isChain_cons]
    refine ⟨fun b hb => ?_, ih⟩
    -- The token behind this one is the next one from the place behind it.
    have hb : b = ((cursor.next customs).2.2.next customs).1 := by
      rw [scanFrom] at hb
      split at hb <;> simpa [eq_comm] using hb
    refine ⟨(cursor.next customs).2.2.rest, by rw [hb]; rfl, fun hvalue => ?_⟩
    have hfits := (fits_cut customs cursor.mode cursor.rest).2
    have hvalue : (cut customs cursor.mode cursor.rest).kind = .value := hvalue
    rw [hvalue] at hfits
    exact hfits

end FilterQuery
