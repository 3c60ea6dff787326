import FilterQuery.Filter.Token
import FilterQuery.Filter.Token.Escape
import FilterQuery.Text.Alphanumeric
import FilterQuery.Text.Blank

/-! # Reading a text as tokens

`cut` takes the first token off the front of a text.  What it may find depends on the `Mode`:
behind an operator everything up to an unescaped delimiter is a value, and only directly behind a
field name does a bracket open an index.  `Cursor.next` turns the piece into a `Token`, and `scan`
reads a whole text.

## Key results

* `cut_raw_append_rest`: a piece and what follows it make up the text
* `Cursor.measure_next_lt`: every token but the last one brings the end of the text closer -/

namespace FilterQuery

/-- Characters of field names and of the names of custom operators. -/
def isFieldChar (c : Char) : Bool :=
  Text.isAlphanumeric c || c == '_' || c == '.' || c == '-'

/-- What the token before allows. -/
inductive Mode where
  /-- Neither a value nor an index. -/
  | plain
  /-- Directly behind a field name, where an index may follow. -/
  | afterField
  /-- Directly behind an operator, where a value follows. -/
  | value
deriving DecidableEq, Repr

/-- A token cut off the front of a text: its kind, what it says, the characters it covers, and the
text behind it. -/
structure Piece where
  kind : TokenKind
  text : List Char
  raw : List Char
  rest : List Char
  /-- What is wrong with the piece, if anything. -/
  problem : Option Problem := none

/-- The characters of a value, escapes unresolved, and the text behind it. -/
def cutValue : List Char → List Char × List Char
  | [] => ([], [])
  | ['\\'] => (['\\'], [])
  | '\\' :: c :: rest => ('\\' :: c :: (cutValue rest).1, (cutValue rest).2)
  | c :: rest =>
    if isValueDelimiter c || startsIgnoreCase (c :: rest) then ([], c :: rest)
    else (c :: (cutValue rest).1, (cutValue rest).2)

/-- The characters of an index behind its opening bracket, escapes unresolved, and the text behind
its closing bracket; `none` if it is never closed. -/
def cutIndex : List Char → Option (List Char × List Char)
  | [] => none
  | ['\\'] => none
  | '\\' :: c :: rest => (cutIndex rest).map fun (body, after) => ('\\' :: c :: body, after)
  | c :: rest =>
    if c == ']' then some ([], rest)
    else (cutIndex rest).map fun (body, after) => (c :: body, after)

/-- The longest of the names with which the text begins. -/
def longestName (names : List String) (text : List Char) : Option String :=
  match names with
  | [] => none
  | name :: names =>
    let later := longestName names text
    if name.toList.isPrefixOf text then
      match later with
      | some other => if other.length < name.length then some name else some other
      | none => some name
    else later

/-- The operator with which the text begins.  The longest symbol wins; custom operators are looked
for only at a `#`. -/
def operatorAt (customs : List String) : List Char → Option Operator
  | '=' :: '*' :: _ => some .contains
  | '=' :: _ => some .equal
  | '!' :: '=' :: _ => some .notEqual
  | '!' :: '*' :: _ => some .notContains
  | '!' :: '^' :: _ => some .notStartsWith
  | '!' :: '$' :: _ => some .notEndsWith
  | '>' :: '=' :: _ => some .greaterEqual
  | '>' :: _ => some .greater
  | '<' :: '=' :: _ => some .lessEqual
  | '<' :: _ => some .less
  | '^' :: _ => some .startsWith
  | '$' :: _ => some .endsWith
  | '#' :: rest => (longestName customs ('#' :: rest)).map .custom
  | _ => none

/-- A piece whose text is just its characters. -/
def Piece.verbatim (kind : TokenKind) (raw rest : List Char) : Piece := ⟨kind, raw, raw, rest, none⟩

/-- The value at the front of a text; it may be empty. -/
def cutValuePiece (text : List Char) : Piece :=
  let (raw, rest) := cutValue text
  ⟨.value, unescape ['\\'] raw, raw, rest, none⟩

/-- The index at the front of a text whose first character is the opening bracket. -/
def cutIndexPiece (body : List Char) : Piece :=
  match cutIndex body with
  | some (raw, rest) => ⟨.index, unescape [] raw, '[' :: raw ++ [']'], rest, none⟩
  | none => ⟨.bad, unescape [] body, '[' :: body, [], some .unclosedIndex⟩

/-- The token at the front of a text that begins with no bracket, conjunction or mark `/i`. -/
def cutWord (customs : List String) (c : Char) (rest : List Char) : Piece :=
  match operatorAt customs (c :: rest) with
  | some op =>
    ⟨.operator op, op.symbol.toList, (c :: rest).take op.symbol.length,
      (c :: rest).drop op.symbol.length, none⟩
  | none =>
    if isFieldChar c then
      .verbatim .field ((c :: rest).takeWhile isFieldChar) ((c :: rest).dropWhile isFieldChar)
    else ⟨.bad, [c], [c], rest, some (.badCharacter c)⟩

/-- The first token of a text where no value is expected. -/
def cutPlain (customs : List String) (afterField : Bool) : List Char → Piece
  | [] => .verbatim .finish [] []
  | '(' :: rest => .verbatim .openParen ['('] rest
  | ')' :: rest => .verbatim .closeParen [')'] rest
  | ',' :: rest => .verbatim (.conjunction .and) [','] rest
  | '|' :: rest => .verbatim (.conjunction .or) ['|'] rest
  | '/' :: 'i' :: rest => .verbatim .ignoreCase ['/', 'i'] rest
  | c :: rest =>
    if Text.isBlank c then
      .verbatim .blank ((c :: rest).takeWhile Text.isBlank) ((c :: rest).dropWhile Text.isBlank)
    else if c = '[' ∧ afterField = true then cutIndexPiece rest
    else cutWord customs c rest

/-- The first token of a text. -/
def cut (customs : List String) (mode : Mode) (text : List Char) : Piece :=
  match mode with
  | .value => cutValuePiece text
  | .afterField => cutPlain customs true text
  | .plain => cutPlain customs false text

/-- What the piece allows behind it. -/
def Mode.after : TokenKind → Mode
  | .operator _ => .value
  | .field => .afterField
  | _ => .plain

/-- A place in a text that is being read. -/
structure Cursor where
  mode : Mode
  position : Nat
  rest : List Char
deriving DecidableEq, Repr

namespace Cursor

/-- The beginning of a text. -/
def start (text : String) : Cursor := ⟨.plain, 0, text.toList⟩

/-- The next token, what is wrong with it, and the place behind it.  At the end of the text this
is the token `finish`, again and again. -/
def next (customs : List String) (cursor : Cursor) : Token × Option Diagnostic × Cursor :=
  let piece := cut customs cursor.mode cursor.rest
  (⟨piece.kind, cursor.position, String.ofList piece.text⟩,
   piece.problem.map (⟨·, cursor.position⟩),
   ⟨.after piece.kind, cursor.position + piece.raw.length, piece.rest⟩)

/-- Whether a value at this place is empty. -/
def valueIsEmpty (text : List Char) : Bool := (cutValue text).1.isEmpty

/-- A bound on the tokens that are still to come. -/
def measure (cursor : Cursor) : Nat :=
  match cursor.mode with
  | .value =>
    if valueIsEmpty cursor.rest then 2 * cursor.rest.length + 1 else 2 * cursor.rest.length - 1
  | _ => 2 * cursor.rest.length

end Cursor

/-! ## Pieces and what follows them make up the text. -/

theorem cutValue_append (text : List Char) : (cutValue text).1 ++ (cutValue text).2 = text := by
  fun_induction cutValue text <;> simp_all

theorem cutIndex_append {text body rest : List Char} (h : cutIndex text = some (body, rest)) :
    body ++ ']' :: rest = text := by
  fun_induction cutIndex text generalizing body with
  | case1 => simp at h
  | case2 => simp at h
  | case3 c rest' ih =>
    obtain ⟨⟨b, r⟩, hb, hr⟩ := Option.map_eq_some_iff.1 h
    obtain ⟨rfl, rfl⟩ := Prod.mk.inj hr
    simp [ih hb]
  | case4 c rest' _ hc => simp_all
  | case5 c rest' _ _ hc ih =>
    obtain ⟨⟨b, r⟩, hb, hr⟩ := Option.map_eq_some_iff.1 h
    obtain ⟨rfl, rfl⟩ := Prod.mk.inj hr
    simp [ih hb]

theorem cutIndexPiece_append (body : List Char) :
    (cutIndexPiece body).raw ++ (cutIndexPiece body).rest = '[' :: body := by
  unfold cutIndexPiece
  split
  · rename_i raw rest h
    simp [← cutIndex_append h]
  · simp

theorem cutWord_append (customs : List String) (c : Char) (rest : List Char) :
    (cutWord customs c rest).raw ++ (cutWord customs c rest).rest = c :: rest := by
  unfold cutWord
  split
  · simp
  · split <;> simp [Piece.verbatim, List.takeWhile_append_dropWhile]

theorem cutPlain_append (customs : List String) (afterField : Bool) (text : List Char) :
    (cutPlain customs afterField text).raw ++ (cutPlain customs afterField text).rest = text := by
  unfold cutPlain
  split <;> (try simp [Piece.verbatim])
  split
  · simp [List.takeWhile_append_dropWhile]
  · split
    · rename_i h
      rw [cutIndexPiece_append, h.1]
    · exact cutWord_append _ _ _

/-- A piece and what follows it make up the text. -/
theorem cut_raw_append_rest (customs : List String) (mode : Mode) (text : List Char) :
    (cut customs mode text).raw ++ (cut customs mode text).rest = text := by
  cases mode with
  | value => exact cutValue_append text
  | afterField => exact cutPlain_append customs true text
  | plain => exact cutPlain_append customs false text

/-! ## Reading comes to an end. -/

theorem cutIndexPiece_raw_ne_nil (body : List Char) : (cutIndexPiece body).raw ≠ [] := by
  unfold cutIndexPiece; split <;> simp

/-- A built-in symbol is never empty; a custom name may be, but is looked for only at a `#`. -/
theorem operatorAt_covers {customs : List String} {c : Char} {rest : List Char} {op : Operator}
    (h : operatorAt customs (c :: rest) = some op) : op.symbol ≠ "" ∨ c = '#' := by
  unfold operatorAt at h
  split at h
  case h_13 text heq => exact .inr (List.cons.inj heq).1
  case h_14 => cases h
  all_goals
    obtain rfl := Option.some.inj h
    exact .inl (by decide)

/-- Only an operator with an empty name covers no character, and only in front of a `#`. -/
theorem cutWord_covers (customs : List String) (c : Char) (rest : List Char) :
    (cutWord customs c rest).raw ≠ [] ∨
      c = '#' ∧ Mode.after (cutWord customs c rest).kind = .value := by
  unfold cutWord
  split
  · rename_i op hop
    rcases operatorAt_covers hop with hsymbol | hc
    -- As many characters are covered as the symbol has.
    · have hlength : op.symbol.length ≠ 0 := fun he => hsymbol (by simpa using he)
      simp [hlength]
    · exact .inr ⟨hc, rfl⟩
  · split <;> simp [Piece.verbatim, *]

theorem cutPlain_covers (customs : List String) (afterField : Bool) (text : List Char) :
    (cutPlain customs afterField text).kind = .finish ∨
      (cutPlain customs afterField text).raw ≠ [] ∨
        (∃ rest, text = '#' :: rest) ∧
          Mode.after (cutPlain customs afterField text).kind = .value := by
  unfold cutPlain
  split <;> (try simp [Piece.verbatim])
  split
  · simp [*]
  · split
    · exact .inr (.inl (cutIndexPiece_raw_ne_nil _))
    · exact .inr (cutWord_covers _ _ _)

namespace Cursor

theorem measure_le (cursor : Cursor) : cursor.measure ≤ 2 * cursor.rest.length + 1 := by
  unfold measure; split <;> (try split) <;> omega

theorem not_valueIsEmpty_hash (rest : List Char) : valueIsEmpty ('#' :: rest) = false := by
  rw [valueIsEmpty, cutValue] <;> simp [isValueDelimiter, startsIgnoreCase]

theorem measure_eq_of_plain {cursor : Cursor} (h : cursor.mode ≠ .value) :
    cursor.measure = 2 * cursor.rest.length := by
  unfold measure; split <;> simp_all

theorem measure_value (position : Nat) (text : List Char) :
    (⟨.value, position, text⟩ : Cursor).measure =
      if valueIsEmpty text then 2 * text.length + 1 else 2 * text.length - 1 := rfl

theorem next_value_measure_lt (customs : List String) {cursor : Cursor}
    (hmode : cursor.mode = .value) : (cursor.next customs).2.2.measure < cursor.measure := by
  obtain ⟨mode, position, text⟩ := cursor
  subst hmode
  -- A value leaves the mode: if it is empty that costs one, otherwise each character costs two.
  have happ := congrArg List.length (cutValue_append text)
  rw [List.length_append] at happ
  have hnext : ((⟨.value, position, text⟩ : Cursor).next customs).2.2.measure =
      2 * (cutValue text).2.length := rfl
  rw [hnext, measure_value]
  split
  · omega
  · rename_i h
    have : 0 < (cutValue text).1.length :=
      List.length_pos_iff.2 fun he => h (List.isEmpty_iff.2 he)
    omega

theorem next_plain_measure_lt (customs : List String) {cursor : Cursor}
    (hmode : cursor.mode ≠ .value) (h : (cursor.next customs).1.kind ≠ .finish) :
    (cursor.next customs).2.2.measure < cursor.measure := by
  have happ := cut_raw_append_rest customs cursor.mode cursor.rest
  have hlen := congrArg List.length happ
  rw [List.length_append] at hlen
  rw [measure_eq_of_plain hmode]
  -- A token other than the last one covers a character, or is an operator with an empty name.
  have hcovers : (cut customs cursor.mode cursor.rest).raw ≠ [] ∨
      (∃ rest, cursor.rest = '#' :: rest) ∧
        Mode.after (cut customs cursor.mode cursor.rest).kind = .value := by
    revert h
    unfold next cut
    cases hm : cursor.mode with
    | value => exact absurd hm hmode
    | plain => exact fun h => (cutPlain_covers customs false cursor.rest).resolve_left h
    | afterField => exact fun h => (cutPlain_covers customs true cursor.rest).resolve_left h
  -- An operator with an empty name leaves the `#` behind it, where a value is not empty.
  by_cases hraw : (cut customs cursor.mode cursor.rest).raw = []
  · obtain ⟨⟨rest, hrest⟩, hvalue⟩ := hcovers.resolve_left (fun hne => hne hraw)
    rw [hraw, List.nil_append] at happ
    simp only [next, measure, happ, hvalue]
    rw [hrest, not_valueIsEmpty_hash, if_neg Bool.false_ne_true, List.length_cons]
    omega
  · have hpos := List.length_pos_iff.2 hraw
    have := measure_le (cursor.next customs).2.2
    simp only [next] at this ⊢
    omega

/-- Every token but the last one brings the end of the text closer. -/
theorem measure_next_lt (customs : List String) {cursor : Cursor}
    (h : (cursor.next customs).1.kind ≠ .finish) :
    (cursor.next customs).2.2.measure < cursor.measure :=
  if hmode : cursor.mode = .value then next_value_measure_lt customs hmode
  else next_plain_measure_lt customs hmode h

end Cursor

/-! ## Whole texts. -/

/-- The tokens from a place on, up to and including the first `finish`, each with what is wrong
with it. -/
def scanFrom (customs : List String) (cursor : Cursor) : List (Token × Option Diagnostic) :=
  if (cursor.next customs).1.kind = .finish then
    [((cursor.next customs).1, (cursor.next customs).2.1)]
  else
    ((cursor.next customs).1, (cursor.next customs).2.1) ::
      scanFrom customs (cursor.next customs).2.2
termination_by cursor.measure
decreasing_by exact Cursor.measure_next_lt customs ‹_›

/-- The tokens of a text, the last one of kind `finish`, and what is wrong with them. -/
def scan (customs : List String) (text : String) : List Token × List Diagnostic :=
  let pieces := scanFrom customs (.start text)
  (pieces.map (·.1), pieces.filterMap (·.2))

end FilterQuery
