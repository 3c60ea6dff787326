import FilterQuery.Filter.Operator

/-! # Tokens and diagnostics

A filter text is read as a list of `Token`s, the last of kind `finish`.  What is wrong with a text
is collected as `Diagnostic`s: a problem and the character index it was found at. -/

namespace FilterQuery

/-- Kind of a token. -/
inductive TokenKind where
  /-- The end of the text. -/
  | finish
  /-- Characters that belong to no token. -/
  | bad
  /-- White space between tokens. -/
  | blank
  | openParen
  | closeParen
  | conjunction (conjunction : Conjunction)
  /-- The name of a field. -/
  | field
  /-- A key in brackets behind a field name. -/
  | index
  | value
  /-- The mark `/i` behind a value. -/
  | ignoreCase
  | operator (operator : Operator)
deriving DecidableEq, Repr, Inhabited

/-- The kind in words, as diagnostics name it. -/
def TokenKind.describe : TokenKind → String
  | finish => "end of input"
  | bad => "bad token"
  | blank => "whitespace"
  | openParen => "'('"
  | closeParen => "')'"
  | conjunction c => "'" ++ c.symbol.toString ++ "'"
  | field => "field name"
  | index => "indexer"
  | value => "value"
  | ignoreCase => "'/i'"
  | operator op => "operator '" ++ op.symbol ++ "'"

/-- A token.  `position` is the character index where it begins; `text` is what it says, with
escapes resolved. -/
structure Token where
  kind : TokenKind
  position : Nat
  text : String
deriving DecidableEq, Repr, Inhabited

/-- What the reader of a filter looks for at a given place. -/
inductive Expectation where
  /-- The beginning of a comparison or of a group. -/
  | operand
  | closeParen
  | value
  | finish
deriving DecidableEq, Repr

/-- The expectation in words. -/
def Expectation.describe : Expectation → String
  | operand => "field name or '('"
  | closeParen => "')'"
  | value => "value"
  | finish => "end of input"

/-- What can be wrong at a place of a filter. -/
inductive Problem where
  /-- A character with which no token begins. -/
  | badCharacter (c : Char)
  /-- A bracket behind a field name that is never closed. -/
  | unclosedIndex
  /-- A token that does not fit what was expected. -/
  | unexpected (found : TokenKind) (expected : Expectation)
  /-- A problem stated from outside, for trees that were not read from a text. -/
  | stated (message : String)
deriving DecidableEq, Repr

/-- A problem and its place. -/
structure Diagnostic where
  problem : Problem
  position : Nat
deriving DecidableEq, Repr

/-- Wording of a diagnostic. -/
def Diagnostic.message (d : Diagnostic) : String :=
  match d.problem with
  | .badCharacter c => s!"bad character input: '{c}' at position {d.position}"
  | .unclosedIndex => s!"unterminated indexer starting at position {d.position}"
  | .unexpected found expected =>
    s!"unexpected {found.describe} at position {d.position}, expected {expected.describe}"
  | .stated message => message

end FilterQuery
