import FilterQuery.Declaration.Path

/-! # The grammar of declarations

Types, expressions, statements and patterns contain each other.  Each is read by functions that take
a `Grammar`, the readers of the parts; of what they read they give the form, as far as it matters to
what stands around it. -/

namespace FilterQuery.Declaration

/-- The form of a type. -/
inductive TypeForm where
  | path (path : Path)
  /-- Bounds with `+` between them; `single` tells that it is only one. -/
  | bounds (single : Bool)
  /-- A type in parentheses. -/
  | parens
  | other
deriving DecidableEq, Repr

/-- The path that a type is, if it is one. -/
def TypeForm.path? : TypeForm → Option Path
  | .path found => some found
  | _ => none

/-- Whether a type is the type of optional values: a path whose last word is `Option` with exactly
one argument, which is a type. -/
def TypeForm.isOptional (form : TypeForm) : Bool :=
  form.path?.any fun path =>
    !path.qualified && path.segments.getLast? == some ⟨"Option", .angles [true]⟩

/-- The form of an expression. -/
inductive ExpressionForm where
  /-- A text in quotes. -/
  | text (value : String)
  | range
  | comparison
  /-- A block, a loop or a choice, which needs nothing behind it as a statement. -/
  | block
  /-- The use of a template; `braced` tells that its arguments stand in braces. -/
  | template (braced : Bool)
  | other
deriving DecidableEq, Repr

/-- How strongly an operator binds its operands. -/
inductive Strength where
  | none
  | assign
  | range
  | or
  | and
  | compare
  | bitOr
  | bitXor
  | bitAnd
  | shift
  | sum
  | product
  | cast
deriving DecidableEq, Repr

/-- The strengths in order. -/
def Strength.rank (strength : Strength) : Nat := strength.ctorIdx

/-- Readers of the parts of a declaration. -/
structure Grammar where
  /-- Reads a path in a bound. -/
  path : Reader Path
  /-- Reads a type; the flag allows bounds with `+` between them. -/
  type : (plus : Bool) → Reader TypeForm
  /-- Reads an operand; the flag allows records in braces. -/
  operand : (records : Bool) → Reader ExpressionForm
  /-- Reads operators from the given strength on, behind an operand. -/
  extend : (records : Bool) → Strength → ExpressionForm → Reader ExpressionForm
  /-- Reads an expression that ends at its brace if it is a block, a loop or a choice. -/
  early : Reader ExpressionForm
  /-- Reads the content of a block. -/
  statements : Reader Unit
  /-- Reads a pattern without alternatives, and tells whether it is a range without a bound. -/
  pattern : Reader Bool

namespace Grammar

variable (g : Grammar)

/-- Reads an expression. -/
def expression (records : Bool) : Reader ExpressionForm := do
  g.extend records .none (← g.operand records)

/-- Reads a type, bounds included. -/
def skipType : Reader Unit := discard (g.type true)

/-- Reads an expression of no particular form. -/
def skipExpression : Reader Unit := discard (g.expression true)

/-- Reads a block. -/
def block : Reader Unit := Reader.inside .brace g.statements

/-- Reads expressions with commas between them, in a group. -/
def expressionList (delimiter : Delimiter) : Reader Unit :=
  Reader.inside delimiter (discard (Reader.terminated g.skipExpression))

end Grammar

end FilterQuery.Declaration
