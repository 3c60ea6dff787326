import FilterQuery.Declaration.Pattern

/-! # Operators in expressions

An expression is an operand with operators behind it.  What an operator takes as its right side
depends on how strongly it binds compared to the next one.

## Key results

* `readExtension_of_strengthAhead`: where no operator follows, an operand is left as it is -/

namespace FilterQuery.Declaration

/-- The operators between two operands, longer ones first where one begins with another. -/
def operators : List (String × Strength) :=
  [("+=", .assign), ("-=", .assign), ("*=", .assign), ("/=", .assign), ("%=", .assign),
   ("^=", .assign), ("&=", .assign), ("|=", .assign), ("<<=", .assign), (">>=", .assign),
   ("&&", .and), ("||", .or), ("<<", .shift), (">>", .shift), ("==", .compare), ("<=", .compare),
   ("!=", .compare), (">=", .compare), ("+", .sum), ("-", .sum), ("*", .product), ("/", .product),
   ("%", .product), ("^", .bitXor), ("&", .bitAnd), ("|", .bitOr), ("<", .compare), (">", .compare)]

/-- The operator at the front of trees. -/
def operator? (trees : List Tree) : Option (String × Strength) :=
  operators.find? fun (symbol, _) => atSymbol symbol trees

/-- How strongly the operator at the front of trees binds. -/
def strengthAhead (trees : List Tree) : Strength :=
  match operator? trees with
  | some (_, strength) => strength
  | none =>
    if atAssignment trees then .assign
    else if atSymbol ".." trees then .range
    else if atWord "as" trees then .cast
    else .none

/-- Symbols in front of which a range has no upper bound. -/
def endsOfRange : List String :=
  [",", ";", "?", "=>", "=", "+", "/", "%", "^", ">", "<=", "!=", "-=", "*=", "&=", "|=", "<<="]

/-- Whether a range without upper bound ends in front of trees. -/
def atEndOfRange (records : Bool) (trees : List Tree) : Bool :=
  trees.isEmpty || endsOfRange.any (atSymbol · trees) || atWord "as" trees ||
    (atSymbol "." trees && !atSymbol ".." trees) || (!records && atGroup .brace trees)

/-- What goes on from a conversion in front of trees, which it may not. -/
def continuation? (trees : List Tree) : Option String :=
  if atSymbol "." trees && !atSymbol ".." trees then
    let behind := trees.drop 1
    if atWord "await" behind then some "`.await`"
    else if atIdentifier behind && (atGroup .paren (trees.drop 2) || atSymbol "::" (trees.drop 2)) then
      some "a method call"
    else some "a field access"
  else if atSymbol "?" trees then some "`?`"
  else if atGroup .bracket trees then some "indexing"
  else if atGroup .paren trees then some "a function call"
  else none

variable (g : Grammar)

/-- Reads the right side of an operator of the given strength. -/
def readRight (records : Bool) (strength : Strength) : Reader Unit := do
  let step := fun form => do
    let trees ← Reader.ahead
    let next := strengthAhead trees
    unless strength.rank < next.rank || (next == strength && strength == .assign) do return none
    let form ← g.extend records next form
    -- An operator that may not stand here is left to what stands around.
    return if (← Reader.ahead).length < trees.length then some form else none
  discard (Reader.iterate step (← g.operand records))

/-- Reads the upper bound of a range from its dots on. -/
def readRangeEnd (records : Bool) : Reader ExpressionForm := do
  if ← Reader.symbol? "..=" then readRight g records .range
  else if atSymbol "..." (← Reader.ahead) then Reader.fail (.symbol "..")
  else
    Reader.symbol ".."
    unless atEndOfRange records (← Reader.ahead) do readRight g records .range
  return .range

/-- Reads the next operator behind an operand and its right side, if it is strong enough. -/
def readOperator? (records : Bool) (least : Strength) (left : ExpressionForm) :
    Reader (Option ExpressionForm) := do
  if left == .range then return none
  let trees ← Reader.ahead
  let strength := strengthAhead trees
  if strength == .none || strength.rank < least.rank then return none
  match operator? trees with
  | some (symbol, _) =>
    if strength == .compare && left == .comparison then throw (.misplaced .comparison)
    Reader.symbol symbol
    readRight g records strength
    return if strength == .compare then some .comparison else some .other
  | none =>
    if strength == .assign then
      Reader.symbol "="
      readRight g records .assign
      return some .other
    else if strength == .range then readRangeEnd g records
    else
      Reader.word "as"
      discard (g.type false)
      if let some what := continuation? (← Reader.ahead) then throw (.misplaced (.behindCast what))
      return some .other

/-- Reads operators from the given strength on, behind an operand. -/
def readExtension (records : Bool) (least : Strength) (left : ExpressionForm) :
    Reader ExpressionForm :=
  Reader.iterate (readOperator? g records least) left

/-- Where no operator follows, an operand is left as it is. -/
theorem readExtension_of_strengthAhead {source : Source} (records : Bool) (least : Strength)
    (left : ExpressionForm) (h : strengthAhead source.trees = .none) :
    (readExtension g records least left).run source = .ok (left, source) := by
  refine Reader.run_iterate ?_
  unfold readOperator?
  split
  · rfl
  · simp only [StateT.run_bind, Reader.run_ahead, Reader.ok_bind, h]
    rfl

end FilterQuery.Declaration
