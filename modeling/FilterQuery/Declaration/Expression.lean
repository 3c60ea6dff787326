import FilterQuery.Declaration.Operator

/-! # Expressions

The operands of expressions: literals, paths, groups, functions, choices and loops, with what goes
on from them. -/

namespace FilterQuery.Declaration

variable (g : Grammar)

/-- Reads a block that may begin with attributes. -/
def readBlock : Reader Unit :=
  Reader.inside .brace do
    discard (readInnerAttributes g)
    g.statements

/-- Reads a condition, in which records in braces are not allowed. -/
def readCondition : Reader Unit := discard (g.expression false)

/-! ## Choices and loops -/

/-- Reads a choice with its alternatives. -/
def readIf : Reader ExpressionForm := do
  let step := fun (_ : Unit) => do
    unless ← Reader.word? "if" do return none
    readCondition g
    g.block
    unless ← Reader.word? "else" do return none
    if atWord "if" (← Reader.ahead) then return some ()
    g.block
    return none
  Reader.iterate step ()
  return .block

/-- Whether trees begin with a form of expression that ends with a brace. -/
def atBlockExpression (trees : List Tree) : Bool :=
  let behind := trees.drop 1
  atOneOf ["if", "while", "loop", "match", "unsafe"] trees || atGroup .brace trees ||
    (atOneOf ["try", "const"] trees && atGroup .brace behind) ||
    (atWord "for" trees && !(atSymbol "<" behind)) || atLifetime trees

/-- Reads a loop. -/
def readLoop : Reader ExpressionForm := do
  if ← Reader.word? "while" then readCondition g
  else if ← Reader.word? "for" then
    discard (readAlternatives g)
    Reader.word "in"
    readCondition g
  else Reader.word "loop"
  readBlock g
  return .block

/-- Reads a loop or a block behind its label. -/
def readLabeled : Reader ExpressionForm := do
  Reader.lifetime
  Reader.symbol ":"
  let trees ← Reader.ahead
  if atOneOf ["while", "for", "loop"] trees then readLoop g
  else if atGroup .brace trees then
    g.block
    return .block
  else Reader.fail .blockOrLoop

/-- Reads a case of a choice by patterns. -/
def readCase : Reader Unit := do
  discard (readAttributes g)
  discard (readAlternatives g)
  if ← Reader.word? "if" then g.skipExpression
  Reader.symbol "=>"
  let form ← g.early
  -- Only behind a block the comma may be left out.
  if form == .block || (← Reader.ahead).isEmpty then discard (Reader.symbol? ",")
  else Reader.symbol ","

/-- Reads a choice by patterns. -/
def readMatch : Reader ExpressionForm := do
  Reader.word "match"
  readCondition g
  Reader.inside .brace do
    discard (readInnerAttributes g)
    discard (Reader.many (!·.isEmpty) (readCase g))
  return .block

/-- Reads an expression that ends with a brace. -/
def readBlockExpression : Reader ExpressionForm := do
  let trees ← Reader.ahead
  if atWord "if" trees then readIf g
  else if atWord "match" trees then readMatch g
  else if atOneOf ["while", "for", "loop"] trees then readLoop g
  else if atLifetime trees then readLabeled g
  else
    if atOneOf ["unsafe", "const", "try"] trees then Reader.advance 1
    readBlock g
    return .block

/-! ## Functions and jumps -/

/-- Whether trees begin with a function. -/
def atFunction (trees : List Tree) : Bool :=
  let behind := trees.drop 1
  atSymbol "|" trees || atOneOf ["move", "static"] trees ||
    (atWord "for" trees && atSymbol "<" behind &&
      (atLifetime (trees.drop 2) || atSymbol ">" (trees.drop 2))) ||
    (atWord "const" trees && !atGroup .brace behind) ||
    (atWord "async" trees && (atSymbol "|" behind || atWord "move" behind))

/-- Reads a function. -/
def readFunction (records : Bool) : Reader Unit := do
  discard (readBinder? g)
  for mark in ["const", "static", "async", "move"] do discard (Reader.word? mark)
  Reader.symbol "|"
  discard (Reader.commaList (atSymbol "|") do
    discard (readAttributes g)
    discard g.pattern
    if ← Reader.symbol? ":" then g.skipType)
  Reader.symbol "|"
  -- A function that tells the type of its result has a block.
  if (← readResult? g).isSome then g.block
  else discard (g.expression records)

/-- Symbols that can begin an expression, each with those that cannot although they begin with
it. -/
def beginnings : List (String × List String) :=
  [("!", ["!="]), ("-", ["-=", "->"]), ("*", ["*="]), ("|", ["|="]), ("&", ["&="]), ("..", []),
   ("<", ["<=", "<<="]), ("::", []), ("#", [])]

/-- Whether trees begin with an expression. -/
def atExpression (trees : List Tree) : Bool :=
  (atAnyWord trees && !atWord "as" trees) || atLiteral trees || atLifetime trees ||
    [Delimiter.paren, .bracket, .brace].any (atGroup · trees) ||
    beginnings.any fun (symbol, others) =>
      atSymbol symbol trees && !others.any (atSymbol · trees)

/-- Reads a jump out of a loop or a function, perhaps with a value. -/
def readJump (records : Bool) : Reader Unit := do
  if ← Reader.word? "break" then
    let trees ← Reader.ahead
    if atLifetime trees then
      if atSymbol ":" (trees.drop 1) then
        g.skipExpression
        throw (.misplaced .labeledLoop)
      Reader.lifetime
    let trees ← Reader.ahead
    if atExpression trees && (records || !atGroup .brace trees) then discard (g.expression records)
  else if ← Reader.word? "continue" then
    if atLifetime (← Reader.ahead) then Reader.lifetime
  else if ← Reader.word? "become" then g.skipExpression
  else
    discard Reader.anyWord
    if atExpression (← Reader.ahead) then g.skipExpression

/-! ## Operands -/

/-- Reads a member of a record with its value. -/
def readMemberValue : Reader Unit := do
  discard (readAttributes g)
  let isNamed ← readMember
  if !isNamed || atSymbol ":" (← Reader.ahead) then
    Reader.symbol ":"
    g.skipExpression

/-- Reads a path, the use of a template or a record. -/
def readPathExpression (records : Bool) : Reader ExpressionForm := do
  let path ← readQualifiedPath g false
  if let some delimiter ← readTemplate? path then return .template (delimiter == .brace)
  if records && atGroup .brace (← Reader.ahead) then
    Reader.inside .brace (readMembers (readMemberValue g) do
      unless (← Reader.ahead).isEmpty do g.skipExpression)
  return .other

/-- Reads the elements of a list, or one element and how often it stands there. -/
def readElements : Reader Unit := do
  if (← Reader.ahead).isEmpty then return
  g.skipExpression
  if ← Reader.symbol? ";" then g.skipExpression
  else unless (← Reader.ahead).isEmpty do
    unless ← Reader.symbol? "," do Reader.fail .separator
    discard (Reader.terminated g.skipExpression)

/-- Reads a pattern with the value that it is compared to. -/
def readLet (records : Bool) : Reader Unit := do
  Reader.word "let"
  discard (readAlternatives g)
  Reader.symbol "="
  discard (g.extend records .compare (← g.operand records))

/-- Whether trees begin with a block that is run later. -/
def atLaterBlock (trees : List Tree) : Bool :=
  atWord "async" trees &&
    (atGroup .brace (trees.drop 1) ||
      (atWord "move" (trees.drop 1) && atGroup .brace (trees.drop 2)))

/-- Reads an operand without what stands in front of it or goes on from it. -/
def readAtom (records : Bool) : Reader ExpressionForm := do
  let trees ← Reader.ahead
  let behind := trees.drop 1
  if let .leaf (.text value) :: _ := trees then
    Reader.literal
    return .text value
  else if atLiteral trees then
    Reader.literal
    return .other
  else if atLaterBlock trees then
    Reader.word "async"
    discard (Reader.word? "move")
    g.block
    return .other
  else if atWord "try" trees && atGroup .brace behind then readBlockExpression g
  else if atFunction trees then
    readFunction g records
    return .other
  else if atWord "builtin" trees && atSymbol "#" behind then
    Reader.advance 2
    discard Reader.identifier
    g.expressionList .paren
    return .other
  else if atPath trees || (atWord "try" trees && (atSymbol "!" behind || atSymbol "::" behind)) then
    readPathExpression g records
  else if atGroup .paren trees then
    g.expressionList .paren
    return .other
  else if atOneOf ["break", "continue", "return", "become", "yield"] trees then
    readJump g records
    return .other
  else if atGroup .bracket trees then
    Reader.inside .bracket (readElements g)
    return .other
  else if atWord "let" trees then
    readLet g records
    return .other
  else if atOneOf ["if", "while", "for", "loop", "match", "unsafe", "const"] trees ||
      atGroup .brace trees || atLifetime trees then
    readBlockExpression g
  else if atSymbol ".." trees then readRangeEnd g records
  else if atWord "_" trees then
    Reader.word "_"
    return .other
  else Reader.fail .expression

/-- Whether digits with points between them are the positions of members. -/
def arePositions (parts : List String) : Bool :=
  parts.all fun part => part.toList.head?.any Char.isDigit && part.toList.all isDigitOrBar

/-- Reads what stands behind the dot that leads to a member. -/
def readAccess : Reader Unit := do
  -- Two positions with a point between them make one number.
  if let .leaf (.decimal digits) :: _ ← Reader.ahead then
    let parts := digits.splitOn "."
    let endsWithPoint := parts.getLast? == some ""
    unless arePositions (if endsWithPoint then parts.dropLast else parts) do Reader.fail .member
    Reader.advance 1
    unless endsWithPoint do return
  if ← Reader.word? "await" then return
  let isNamed ← readMember
  let trees ← Reader.ahead
  if isNamed && atSymbol "::" trees then
    discard (readAngles g)
    g.expressionList .paren
  else if isNamed && atGroup .paren trees then g.expressionList .paren

/-- Reads what goes on from an operand, if anything does. -/
def readTrailer? (form : ExpressionForm) : Reader (Option ExpressionForm) := do
  let trees ← Reader.ahead
  if atGroup .paren trees then
    g.expressionList .paren
    return some .other
  if atGroup .bracket trees then
    Reader.inside .bracket g.skipExpression
    return some .other
  if form == .range then return none
  if atSymbol "." trees && !atSymbol ".." trees then
    Reader.symbol "."
    readAccess g
    return some .other
  if ← Reader.symbol? "?" then return some .other
  return none

/-- Reads all that goes on from an operand. -/
def readTrailers (form : ExpressionForm) : Reader ExpressionForm :=
  Reader.iterate (readTrailer? g) form

/-- Reads an operand; the flag allows records in braces. -/
def readOperand (records : Bool) : Reader ExpressionForm := do
  let attributes ← readAttributes g
  let trees ← Reader.ahead
  if atSymbol "&" trees then
    Reader.symbol "&"
    let trees ← Reader.ahead
    if atWord "raw" trees && atOneOf ["mut", "const"] (trees.drop 1) then Reader.advance 2
    else discard (Reader.word? "mut")
    discard (g.operand records)
    return .other
  else if ["*", "!", "-"].any (atSymbol · trees) then
    Reader.advance 1
    discard (g.operand records)
    return .other
  else
    let form ← readTrailers g (← readAtom g records)
    if form == .range && !attributes.isEmpty then throw (.misplaced .attributeOfRange)
    return form

/-- Reads an expression that ends at its brace if it is a block, a loop or a choice, unless a member
follows. -/
def readEarly : Reader ExpressionForm := do
  discard (readAttributes g)
  unless atBlockExpression (← Reader.ahead) do return ← g.expression true
  let form ← readBlockExpression g
  let trees ← Reader.ahead
  if (atSymbol "." trees && !atSymbol ".." trees) || atSymbol "?" trees then
    g.extend true .none (← readTrailers g form)
  else return form

end FilterQuery.Declaration
