import FilterQuery.Text.Blank
import FilterQuery.Text.Hexadecimal
import FilterQuery.Text.Identifier

/-! # Lexemes of declarations

The text of a declaration is read as a list of `Lexeme`s.  White space and comments stand between
them; a comment that documents something stands for an attribute.

## Key results

* `Lexeme.length_next?`: what follows a lexeme is shorter than the text it was taken from -/

namespace FilterQuery.Declaration

/-- Kind of delimiter. -/
inductive Delimiter where
  | paren
  | bracket
  | brace
deriving DecidableEq, Repr

/-- A smallest part of a declaration. -/
inductive Lexeme where
  /-- An identifier or keyword; a raw identifier keeps its mark `r#`. -/
  | word (name : String)
  /-- A text in quotes, escapes resolved. -/
  | text (value : String)
  /-- A whole number; `isIndex` tells that it can be the index of a member. -/
  | integer (isIndex : Bool)
  /-- A number with a point or an exponent, as it is written. -/
  | decimal (digits : String)
  /-- Any other literal. -/
  | literal
  | lifetime
  | opening (delimiter : Delimiter)
  | closing (delimiter : Delimiter)
  /-- A sign; `joined` tells that the next character is a sign as well. -/
  | sign (c : Char) (joined : Bool)
deriving DecidableEq, Repr

/-! ## White space and comments -/

/-- White space in declarations, which includes the marks for the direction of writing. -/
def isSpace (c : Char) : Bool := Text.isBlank c || c == '\u200e' || c == '\u200f'

/-- Whether the text begins with a comment up to the end of a line that documents nothing. -/
def startsLineComment : List Char → Bool
  | '/' :: '/' :: '/' :: '/' :: _ => true
  | '/' :: '/' :: '/' :: _ | '/' :: '/' :: '!' :: _ => false
  | '/' :: '/' :: _ => true
  | _ => false

/-- Whether the text begins with a delimited comment that documents nothing. -/
def startsBlockComment : List Char → Bool
  | '/' :: '*' :: '*' :: '/' :: _ | '/' :: '*' :: '*' :: '*' :: _ => true
  | '/' :: '*' :: '*' :: _ | '/' :: '*' :: '!' :: _ => false
  | '/' :: '*' :: _ => true
  | _ => false

/-- What stands behind a delimited comment, in which comments may be nested; `depth` of them are
open. -/
def dropComment : (depth : Nat) → List Char → Option (List Char)
  | depth, '/' :: '*' :: rest => dropComment (depth + 1) rest
  | depth, '*' :: '/' :: rest => if depth ≤ 1 then some rest else dropComment (depth - 1) rest
  | depth, _ :: rest => dropComment depth rest
  | _, [] => none

theorem length_dropWhile_le (p : Char → Bool) (cs : List Char) :
    (cs.dropWhile p).length ≤ cs.length :=
  (List.dropWhile_sublist p).length_le

theorem length_dropComment {depth : Nat} {cs rest : List Char}
    (h : dropComment depth cs = some rest) : rest.length < cs.length := by
  fun_induction dropComment depth cs with
  | case1 depth cs ih =>
    have := ih h
    simp only [List.length_cons]
    omega
  | case2 depth cs hdepth =>
    obtain rfl := Option.some.inj h
    simp only [List.length_cons]
    omega
  | case3 depth cs hdepth ih =>
    have := ih h
    simp only [List.length_cons]
    omega
  | case4 depth c cs _ _ ih => exact Nat.lt_succ_of_lt (ih h)
  | case5 => cases h

/-- Drops white space and comments at the front of a text. -/
def skipSpace (cs : List Char) : List Char :=
  match cs with
  | [] => []
  | c :: rest =>
    if startsLineComment (c :: rest) then skipSpace (rest.dropWhile (· != '\n'))
    else if startsBlockComment (c :: rest) then
      match h : dropComment 0 (c :: rest) with
      | some after =>
        have := length_dropComment h
        skipSpace after
      | none => c :: rest
    else if isSpace c then skipSpace rest
    else c :: rest
termination_by cs.length
decreasing_by
  · exact Nat.lt_succ_of_le (length_dropWhile_le _ rest)
  · exact this
  · exact Nat.lt_succ_self _

theorem length_skipSpace_le (cs : List Char) : (skipSpace cs).length ≤ cs.length := by
  fun_induction skipSpace cs with
  | case1 => exact Nat.le_refl _
  | case2 c rest _ ih =>
    exact Nat.le_succ_of_le (Nat.le_trans ih (length_dropWhile_le _ rest))
  | case3 c rest _ _ after _ hlt ih => exact Nat.le_trans ih (Nat.le_of_lt hlt)
  | case4 => exact Nat.le_refl _
  | case5 c rest _ _ _ ih => exact Nat.le_succ_of_le ih
  | case6 => exact Nat.le_refl _

/-- Whether a text has a carriage return that does not belong to the end of a line. -/
def hasBareReturn : List Char → Bool
  | [] => false
  | '\r' :: '\n' :: rest => hasBareReturn rest
  | c :: rest => c == '\r' || hasBareReturn rest

/-- The lexemes that a comment stands for which documents what follows, or if `within` what it
stands in. -/
def documentation (within : Bool) (content : List Char) : List Lexeme :=
  .sign '#' false :: (if within then [.sign '!' false] else []) ++
    [.opening .bracket, .word "doc", .sign '=' false, .text (String.ofList content),
     .closing .bracket]

/-- Reads a comment up to the end of the line, behind its mark. -/
def readLineComment (within : Bool) (cs : List Char) : Option (List Lexeme × List Char) :=
  let content := cs.takeWhile (· != '\n')
  let rest := cs.dropWhile (· != '\n')
  if hasBareReturn (content ++ rest.take 1) then none else some (documentation within content, rest)

/-- Reads a delimited comment, of which three characters are the mark. -/
def readBlockComment (within : Bool) (cs : List Char) : Option (List Lexeme × List Char) :=
  (dropComment 0 cs).bind fun rest =>
    let content := (cs.drop 3).take (cs.length - rest.length - 5)
    if hasBareReturn content then none else some (documentation within content, rest)

/-- The lexemes of a comment that documents something, at the front of a text. -/
def readDocumentation? (cs : List Char) : Option (List Lexeme × List Char) :=
  match cs with
  | '/' :: '/' :: '!' :: rest => readLineComment true rest
  | '/' :: '/' :: '/' :: rest => if rest.head? = some '/' then none else readLineComment false rest
  | '/' :: '*' :: '!' :: _ => readBlockComment true cs
  | '/' :: '*' :: '*' :: rest =>
    if rest.head? = some '*' then none else readBlockComment false cs
  | _ => none

/-! ## Texts in quotes -/

/-- What has been read of an escape or of the end of a line in a text in quotes. -/
inductive EscapeState where
  /-- Nothing is open. -/
  | plain
  /-- A carriage return, which has to be followed by the end of the line. -/
  | returned
  /-- The backslash. -/
  | backslash
  /-- The backslash at the end of a line: white space that follows does not count. -/
  | lineEnd
  /-- A carriage return behind such a backslash. -/
  | lineReturned
  /-- The mark `\x` and perhaps its first digit. -/
  | byte (first : Option Nat)
  /-- The mark `\u`. -/
  | codeMark
  /-- The mark `\u{` and digits behind it: their number and value. -/
  | code (digits value : Nat)

/-- The character that a single letter behind a backslash stands for. -/
def escapedChar? (c : Char) : Option Char :=
  match c with
  | 'n' => some '\n'
  | 'r' => some '\r'
  | 't' => some '\t'
  | '0' => some '\x00'
  | '\\' | '"' | '\'' => some c
  | _ => none

/-- One character inside a text in quotes: the state behind it, and the character it completes. -/
def EscapeState.step : EscapeState → Char → Option (EscapeState × Option Char)
  | plain, c =>
    if c == '\\' then some (backslash, none)
    else if c == '\r' then some (returned, none)
    else some (plain, some c)
  | returned, c => if c == '\n' then some (plain, some '\n') else none
  | lineEnd, c =>
    if c == '\\' then some (backslash, none)
    else if c == ' ' || c == '\t' || c == '\n' then some (lineEnd, none)
    else if c == '\r' then some (lineReturned, none)
    else some (plain, some c)
  | lineReturned, c => if c == '\n' then some (lineEnd, none) else none
  | backslash, c =>
    if c == 'x' then some (byte none, none)
    else if c == 'u' then some (codeMark, none)
    else if c == '\n' then some (lineEnd, none)
    else if c == '\r' then some (lineReturned, none)
    else (escapedChar? c).map fun e => (plain, some e)
  | byte none, c => ((Text.hexValue? c).filter (· < 8)).map fun d => (byte (some d), none)
  | byte (some first), c =>
    (Text.hexValue? c).map fun d => (plain, some (Char.ofNat (16 * first + d)))
  | codeMark, c => if c == '\x7b' then some (code 0 0, none) else none
  | code digits value, c =>
    if c == '\x7d' then
      if 0 < digits ∧ value.isValidChar then some (plain, some (Char.ofNat value)) else none
    else if c == '_' ∧ 0 < digits then some (code digits value, none)
    else if digits < 6 then (Text.hexValue? c).map fun d => (code (digits + 1) (16 * value + d), none)
    else none

/-- Whether a quote ends the text. -/
def EscapeState.mayEnd : EscapeState → Bool
  | plain | lineEnd => true
  | _ => false

/-- Reads a text up to the quote that ends it, and gives what follows. -/
def scanQuoted (state : EscapeState) : List Char → Option (List Char × List Char)
  | [] => none
  | c :: rest =>
    if c == '"' && state.mayEnd then some ([], rest)
    else
      match state.step c with
      | none => none
      | some (state, done) =>
        (scanQuoted state rest).map fun (text, rest) => (done.toList ++ text, rest)

/-- Reads a text without escapes up to the quote and the number signs that end it. -/
def scanRaw (signs : Nat) : List Char → Option (List Char × List Char)
  | [] => none
  | c :: rest =>
    if c == '"' && (List.replicate signs '#').isPrefixOf rest then some ([], rest.drop signs)
    else if c == '\r' && rest.head? != some '\n' then none
    else (scanRaw signs rest).map fun (text, rest) => (c :: text, rest)

/-- Skips characters and pairs of a backslash and a character up to a quote. -/
def skipQuoted (quote : Char) : List Char → Option (List Char)
  | [] => none
  | '\\' :: _ :: rest => skipQuoted quote rest
  | c :: rest => if c == quote then some rest else skipQuoted quote rest

/-! ## Literals -/

/-- Drops the letters directly behind a literal. -/
def dropSuffix (cs : List Char) : List Char :=
  match cs with
  | c :: rest => if Text.isIdentifierStart c then rest.dropWhile Text.isIdentifierContinue else cs
  | [] => []

/-- A text behind its opening quote. -/
def quotedLexeme (cs : List Char) : Option (Lexeme × List Char) :=
  (scanQuoted .plain cs).map fun (text, rest) => (.text (String.ofList text), dropSuffix rest)

/-- A text behind the letter that marks it as one without escapes. -/
def rawLexeme (cs : List Char) : Option (Lexeme × List Char) :=
  match cs.dropWhile (· == '#') with
  | '"' :: rest =>
    (scanRaw (cs.takeWhile (· == '#')).length rest).map fun (text, rest) =>
      (.text (String.ofList text), dropSuffix rest)
  | _ => none

/-- Another literal that ends at a quote. -/
def skippedLexeme (quote : Char) (cs : List Char) : Option (Lexeme × List Char) :=
  (skipQuoted quote cs).map fun rest => (.literal, dropSuffix rest)

/-- A single character behind its quote. -/
def charLexeme (cs : List Char) : Option (Lexeme × List Char) :=
  match cs with
  | '\\' :: _ => skippedLexeme '\'' cs
  | _ :: '\'' :: rest => some (.literal, dropSuffix rest)
  | _ => none

/-- Characters of a run of decimal digits. -/
def isDigitOrBar (c : Char) : Bool := c.isDigit || c == '_'

/-- Characters of a run of hexadecimal digits. -/
def isHexDigitOrBar (c : Char) : Bool := (Text.hexValue? c).isSome || c == '_'

/-- The characters of an exponent behind its letter, if it has a digit. -/
def exponentOf? (cs : List Char) : Option (List Char) :=
  let bars := cs.takeWhile (· == '_')
  let sign := ((cs.drop bars.length).take 1).filter fun c => c == '+' || c == '-'
  let digits := (cs.drop (bars.length + sign.length)).takeWhile isDigitOrBar
  if digits.any Char.isDigit then some (bars ++ sign ++ digits) else none

/-- The characters of an exponent with its letter, if there is one. -/
def exponentPart : List Char → List Char
  | c :: rest =>
    if c == 'e' || c == 'E' then ((exponentOf? rest).map (c :: ·)).getD [] else []
  | [] => []

/-- The characters of a number with a point or an exponent, at the front of a text. -/
def decimalPart (cs : List Char) : List Char :=
  let whole := cs.takeWhile isDigitOrBar
  match cs.drop whole.length with
  | '.' :: rest =>
    if rest.head?.any fun c => c == '.' || Text.isIdentifierStart c then []
    else
      let digits := rest.takeWhile isDigitOrBar
      whole ++ '.' :: digits ++ exponentPart (rest.drop digits.length)
  | rest => if exponentPart rest = [] then [] else whole ++ exponentPart rest

/-- The mark of the base of a whole number, its base and its digits, at the front of a text. -/
def integerPart (cs : List Char) : List Char × Nat × List Char :=
  match cs with
  | '0' :: 'x' :: rest => (['0', 'x'], 16, rest.takeWhile isHexDigitOrBar)
  | '0' :: 'o' :: rest => (['0', 'o'], 8, rest.takeWhile isDigitOrBar)
  | '0' :: 'b' :: rest => (['0', 'b'], 2, rest.takeWhile isDigitOrBar)
  | cs => ([], 10, cs.takeWhile isDigitOrBar)

/-- The value of digits in a base, bars apart; `none` if there is no digit or one that is too
great. -/
def valueOfDigits? (base : Nat) (digits : List Char) : Option Nat :=
  let values := (digits.filter (· != '_')).map fun c => (Text.hexValue? c).getD 0
  if values ≠ [] ∧ values.all (· < base) then
    some (values.foldl (fun n digit => base * n + digit) 0)
  else none

/-- The letters directly behind a number; `none` if something else goes on from it. -/
def suffixOf? (cs : List Char) : Option (List Char) :=
  match cs with
  | [] => some []
  | c :: _ =>
    if Text.isIdentifierStart c then some (cs.takeWhile Text.isIdentifierContinue)
    else if Text.isIdentifierContinue c then none
    else some []

/-- A whole number at the front of a text. -/
def integerLexeme (cs : List Char) : Option (Lexeme × List Char) :=
  let (mark, base, digits) := integerPart cs
  let rest := cs.drop (mark.length + digits.length)
  match valueOfDigits? base digits, suffixOf? rest with
  | some value, some suffix =>
    some (.integer (suffix.isEmpty && value < UInt32.size), rest.drop suffix.length)
  | _, _ => none

/-- A number at the front of a text that begins with a digit. -/
def numberLexeme (cs : List Char) : Option (Lexeme × List Char) :=
  let digits := decimalPart cs
  let rest := cs.drop digits.length
  match if digits.isEmpty then none else suffixOf? rest with
  | some suffix => some (.decimal (String.ofList (digits ++ suffix)), rest.drop suffix.length)
  | none => integerLexeme cs

/-- The literal at the front of a text, if there is one. -/
def literalLexeme (cs : List Char) : Option (Lexeme × List Char) :=
  match cs with
  | '"' :: rest => quotedLexeme rest
  -- A letter in front of a quote tells the sort of literal.
  | 'r' :: rest => rawLexeme rest
  | 'b' :: '"' :: rest | 'c' :: '"' :: rest => skippedLexeme '"' rest
  | 'b' :: '\'' :: rest => skippedLexeme '\'' rest
  | 'b' :: 'r' :: rest | 'c' :: 'r' :: rest =>
    (rawLexeme rest).map fun (_, rest) => (.literal, rest)
  | '\'' :: rest => charLexeme rest
  | c :: rest => if c.isDigit then numberLexeme (c :: rest) else none
  | [] => none

/-! ## Words and signs -/

/-- Words that have no raw form. -/
def neverRaw : List String := ["_", "self", "Self", "super", "crate"]

/-- A raw identifier behind its mark. -/
def rawWord (cs : List Char) : Option (Lexeme × List Char) :=
  let name := String.ofList (cs.takeWhile Text.isIdentifierContinue)
  if Text.isIdentifier name.toList && !neverRaw.contains name then
    some (.word ("r#" ++ name), cs.dropWhile Text.isIdentifierContinue)
  else none

/-- A lifetime behind its quote. -/
def lifetimeLexeme (cs : List Char) : Option (Lexeme × List Char) :=
  match cs with
  | 'r' :: '#' :: rest => (rawWord rest).bind fun (_, rest) =>
    if rest.head? = some '\'' then none else some (.lifetime, rest)
  | c :: rest =>
    let after := rest.dropWhile Text.isIdentifierContinue
    if Text.isIdentifierStart c && after.head? != some '\'' && after.head? != some '#' then
      some (.lifetime, after)
    else none
  | [] => none

/-- Whether the text begins with a sign, which a comment is not. -/
def startsSign : List Char → Bool
  | '/' :: '/' :: _ | '/' :: '*' :: _ => false
  | c :: _ => "~!@#$%^&*-=+|;:,<.>/?'".toList.contains c
  | [] => false

/-- The delimiter that a character is. -/
def delimiterLexeme? (c : Char) : Option Lexeme :=
  match c with
  | '(' => some (.opening .paren)
  | '[' => some (.opening .bracket)
  | '\x7b' => some (.opening .brace)
  | ')' => some (.closing .paren)
  | ']' => some (.closing .bracket)
  | '\x7d' => some (.closing .brace)
  | _ => none

/-- Beginnings of literals that are no words, even where no literal can be read. -/
def literalMarks : List String :=
  ["r\"", "r#\"", "r##", "b\"", "b'", "br\"", "br#", "c\"", "cr\"", "cr#"]

/-- The word, lifetime, delimiter or sign at the front of a text. -/
def plainLexeme (cs : List Char) : Option (Lexeme × List Char) :=
  match cs with
  | [] => none
  | '\'' :: rest => lifetimeLexeme rest
  | c :: rest =>
    match delimiterLexeme? c with
    | some lexeme => some (lexeme, rest)
    | none =>
      if startsSign (c :: rest) then some (.sign c (startsSign rest), rest)
      else if literalMarks.any fun mark => mark.toList.isPrefixOf (c :: rest) then none
      else
        match c, rest with
        | 'r', '#' :: name => rawWord name
        | c, rest =>
          if Text.isIdentifierStart c then
            some (.word (String.ofList (c :: rest.takeWhile Text.isIdentifierContinue)),
              rest.dropWhile Text.isIdentifierContinue)
          else none

/-- The first lexeme of a text that does not begin with white space, and what follows. -/
def Lexeme.next? (cs : List Char) : Option (Lexeme × List Char) :=
  (literalLexeme cs).or (plainLexeme cs)

/-! ## Every lexeme covers a character -/

theorem length_scanQuoted {state : EscapeState} {cs text rest : List Char}
    (h : scanQuoted state cs = some (text, rest)) : rest.length < cs.length := by
  induction cs generalizing state text with
  | nil => simp [scanQuoted] at h
  | cons c cs ih =>
    unfold scanQuoted at h
    split at h
    · simp only [Option.some.injEq, Prod.mk.injEq] at h
      simp [h.2]
    · split at h
      · simp at h
      · simp only [Option.map_eq_some_iff, Prod.mk.injEq, Prod.exists] at h
        obtain ⟨inner, after, hscan, _, rfl⟩ := h
        exact Nat.lt_succ_of_lt (ih hscan)

theorem length_scanRaw {signs : Nat} {cs text rest : List Char}
    (h : scanRaw signs cs = some (text, rest)) : rest.length < cs.length := by
  induction cs generalizing text with
  | nil => simp [scanRaw] at h
  | cons c cs ih =>
    unfold scanRaw at h
    split at h
    · simp only [Option.some.injEq, Prod.mk.injEq] at h
      rw [← h.2, List.length_drop, List.length_cons]
      omega
    · split at h
      · cases h
      · simp only [Option.map_eq_some_iff, Prod.mk.injEq, Prod.exists] at h
        obtain ⟨inner, after, hscan, _, rfl⟩ := h
        exact Nat.lt_succ_of_lt (ih hscan)

theorem length_skipQuoted {quote : Char} {cs rest : List Char}
    (h : skipQuoted quote cs = some rest) : rest.length < cs.length := by
  fun_induction skipQuoted quote cs with
  | case1 => cases h
  | case2 c cs ih =>
    have := ih h
    simp only [List.length_cons]
    omega
  | case3 c cs => simp_all
  | case4 c cs _ _ ih => exact Nat.lt_succ_of_lt (ih h)

theorem length_dropSuffix_le (cs : List Char) : (dropSuffix cs).length ≤ cs.length := by
  unfold dropSuffix
  split
  · split
    · exact Nat.le_succ_of_le (length_dropWhile_le _ _)
    · exact Nat.le_refl _
  · exact Nat.le_refl _

theorem length_quotedLexeme {cs rest : List Char} {lexeme : Lexeme}
    (h : quotedLexeme cs = some (lexeme, rest)) : rest.length < cs.length := by
  simp only [quotedLexeme, Option.map_eq_some_iff, Prod.mk.injEq, Prod.exists] at h
  obtain ⟨text, after, hscan, _, rfl⟩ := h
  exact Nat.lt_of_le_of_lt (length_dropSuffix_le after) (length_scanQuoted hscan)

theorem length_rawLexeme {cs rest : List Char} {lexeme : Lexeme}
    (h : rawLexeme cs = some (lexeme, rest)) : rest.length < cs.length := by
  unfold rawLexeme at h
  split at h
  -- The number signs in front of the quote are dropped as well.
  · rename_i body hbody
    simp only [Option.map_eq_some_iff, Prod.mk.injEq, Prod.exists] at h
    obtain ⟨text, after, hscan, _, rfl⟩ := h
    have := length_dropSuffix_le after
    have := length_scanRaw hscan
    have := length_dropWhile_le (· == '#') cs
    rw [hbody, List.length_cons] at this
    omega
  · cases h

theorem length_skippedLexeme {quote : Char} {cs rest : List Char} {lexeme : Lexeme}
    (h : skippedLexeme quote cs = some (lexeme, rest)) : rest.length < cs.length := by
  simp only [skippedLexeme, Option.map_eq_some_iff, Prod.mk.injEq] at h
  obtain ⟨after, hskip, _, rfl⟩ := h
  exact Nat.lt_of_le_of_lt (length_dropSuffix_le after) (length_skipQuoted hskip)

theorem length_charLexeme {cs rest : List Char} {lexeme : Lexeme}
    (h : charLexeme cs = some (lexeme, rest)) : rest.length < cs.length := by
  unfold charLexeme at h
  split at h
  · exact length_skippedLexeme h
  · rename_i after _
    have := length_dropSuffix_le after
    grind
  · cases h

theorem length_integerLexeme {cs rest : List Char} {lexeme : Lexeme}
    (h : integerLexeme cs = some (lexeme, rest)) : rest.length < cs.length := by
  cases cs with
  | nil => simp [integerLexeme, integerPart, valueOfDigits?] at h
  | cons c cs =>
    unfold integerLexeme at h
    generalize integerPart (c :: cs) = part at h
    obtain ⟨mark, base, digits⟩ := part
    dsimp only at h
    split at h
    · rename_i value suffix hvalue _
      -- A value needs a digit, so the digits cover a character.
      have hdigits : digits ≠ [] := by
        rintro rfl
        simp [valueOfDigits?] at hvalue
      have := List.length_pos_iff.2 hdigits
      simp only [Option.some.injEq, Prod.mk.injEq] at h
      rw [← h.2, List.length_drop, List.length_drop, List.length_cons]
      omega
    · cases h

theorem length_numberLexeme {cs rest : List Char} {lexeme : Lexeme}
    (h : numberLexeme cs = some (lexeme, rest)) : rest.length < cs.length := by
  cases cs with
  | nil => exact length_integerLexeme (by simpa [numberLexeme, decimalPart, exponentPart] using h)
  | cons c cs =>
    unfold numberLexeme at h
    generalize decimalPart (c :: cs) = digits at h
    dsimp only at h
    split at h
    · rename_i suffix hsuffix
      have hdigits : digits ≠ [] := by
        rintro rfl
        simp at hsuffix
      have := List.length_pos_iff.2 hdigits
      simp only [Option.some.injEq, Prod.mk.injEq] at h
      rw [← h.2, List.length_drop, List.length_drop, List.length_cons]
      omega
    · exact length_integerLexeme h

theorem length_literalLexeme {cs rest : List Char} {lexeme : Lexeme}
    (h : literalLexeme cs = some (lexeme, rest)) : rest.length < cs.length := by
  unfold literalLexeme at h
  split at h
  · exact Nat.lt_succ_of_lt (length_quotedLexeme h)
  · exact Nat.lt_succ_of_lt (length_rawLexeme h)
  · exact Nat.lt_succ_of_lt (Nat.lt_succ_of_lt (length_skippedLexeme h))
  · exact Nat.lt_succ_of_lt (Nat.lt_succ_of_lt (length_skippedLexeme h))
  · exact Nat.lt_succ_of_lt (Nat.lt_succ_of_lt (length_skippedLexeme h))
  · simp only [Option.map_eq_some_iff, Prod.mk.injEq, Prod.exists] at h
    obtain ⟨_, after, hraw, _, rfl⟩ := h
    exact Nat.lt_succ_of_lt (Nat.lt_succ_of_lt (length_rawLexeme hraw))
  · simp only [Option.map_eq_some_iff, Prod.mk.injEq, Prod.exists] at h
    obtain ⟨_, after, hraw, _, rfl⟩ := h
    exact Nat.lt_succ_of_lt (Nat.lt_succ_of_lt (length_rawLexeme hraw))
  · exact Nat.lt_succ_of_lt (length_charLexeme h)
  · split at h
    · exact length_numberLexeme h
    · cases h
  · cases h

theorem length_rawWord_le {cs rest : List Char} {lexeme : Lexeme}
    (h : rawWord cs = some (lexeme, rest)) : rest.length ≤ cs.length := by
  unfold rawWord at h
  dsimp only at h
  split at h
  · simp only [Option.some.injEq, Prod.mk.injEq] at h
    exact h.2 ▸ length_dropWhile_le _ cs
  · cases h

theorem length_lifetimeLexeme_le {cs rest : List Char} {lexeme : Lexeme}
    (h : lifetimeLexeme cs = some (lexeme, rest)) : rest.length ≤ cs.length := by
  unfold lifetimeLexeme at h
  split at h
  · obtain ⟨⟨_, after⟩, hraw, hafter⟩ := Option.bind_eq_some_iff.1 h
    have := length_rawWord_le hraw
    simp only [List.length_cons]
    grind
  · rename_i c cs _
    have := length_dropWhile_le Text.isIdentifierContinue cs
    grind
  · cases h

theorem length_plainLexeme {cs rest : List Char} {lexeme : Lexeme}
    (h : plainLexeme cs = some (lexeme, rest)) : rest.length < cs.length := by
  unfold plainLexeme at h
  split at h
  · cases h
  · exact Nat.lt_succ_of_le (length_lifetimeLexeme_le h)
  · rename_i c cs _
    split at h
    · simp only [Option.some.injEq, Prod.mk.injEq] at h
      simp [h.2]
    · split at h
      · simp only [Option.some.injEq, Prod.mk.injEq] at h
        simp [h.2]
      · split at h
        · cases h
        · split at h
          -- A raw word stands behind its mark.
          · exact Nat.lt_succ_of_le (Nat.le_succ_of_le (length_rawWord_le h))
          · split at h
            · simp only [Option.some.injEq, Prod.mk.injEq] at h
              exact Nat.lt_succ_of_le (h.2 ▸ length_dropWhile_le _ cs)
            · cases h

/-- What follows a lexeme is shorter than the text that the lexeme was taken from. -/
theorem Lexeme.length_next? {cs rest : List Char} {lexeme : Lexeme}
    (h : Lexeme.next? cs = some (lexeme, rest)) : rest.length < cs.length := by
  rcases Option.or_eq_some_iff.1 h with h | ⟨_, h⟩
  · exact length_literalLexeme h
  · exact length_plainLexeme h

theorem length_readLineComment_le {within : Bool} {cs rest : List Char} {lexemes : List Lexeme}
    (h : readLineComment within cs = some (lexemes, rest)) : rest.length ≤ cs.length := by
  unfold readLineComment at h
  dsimp only at h
  split at h
  · cases h
  · simp only [Option.some.injEq, Prod.mk.injEq] at h
    exact h.2 ▸ length_dropWhile_le _ cs

theorem length_readBlockComment {within : Bool} {cs rest : List Char} {lexemes : List Lexeme}
    (h : readBlockComment within cs = some (lexemes, rest)) : rest.length < cs.length := by
  obtain ⟨after, hdrop, hafter⟩ := Option.bind_eq_some_iff.1 h
  have := length_dropComment hdrop
  grind

theorem length_readDocumentation? {cs rest : List Char} {lexemes : List Lexeme}
    (h : readDocumentation? cs = some (lexemes, rest)) : rest.length < cs.length := by
  unfold readDocumentation? at h
  split at h
  · have := length_readLineComment_le h
    simp only [List.length_cons]
    omega
  · split at h
    · cases h
    · have := length_readLineComment_le h
      simp only [List.length_cons]
      omega
  · exact length_readBlockComment h
  · split at h
    · cases h
    · exact length_readBlockComment h
  · cases h

/-! ## The lexemes of a text -/

/-- The lexemes of the characters of a text, or nothing if some of them belong to none. -/
def scanLexemes (cs : List Char) : Option (List Lexeme) :=
  let start := skipSpace cs
  if start.isEmpty then some []
  else
    match hdoc : readDocumentation? start with
    | some (lexemes, rest) =>
      have : rest.length < cs.length :=
        Nat.lt_of_lt_of_le (length_readDocumentation? hdoc) (length_skipSpace_le cs)
      (scanLexemes rest).map (lexemes ++ ·)
    | none =>
      match hnext : Lexeme.next? start with
      | some (lexeme, rest) =>
        have : rest.length < cs.length :=
          Nat.lt_of_lt_of_le (Lexeme.length_next? hnext) (length_skipSpace_le cs)
        (scanLexemes rest).map (lexeme :: ·)
      | none => none
termination_by cs.length

/-- The lexemes of a text, or nothing if parts of it belong to none. -/
def lexemes? (text : String) : Option (List Lexeme) := scanLexemes text.toList

end FilterQuery.Declaration
