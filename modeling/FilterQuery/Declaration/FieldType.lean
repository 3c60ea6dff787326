import FilterQuery.Declaration.Attribute

/-! # Types of fields

Of the type of a field only one thing matters: whether it is the type of optional values
(`TypeForm.isOptional`).  To tell this, and to find where the type ends, all types are read. -/

namespace FilterQuery.Declaration

variable (g : Grammar)

/-! ## Lifetimes and bounds -/

/-- Whether trees begin with what ends a list of parameters. -/
def atAngleEnd : List Tree → Bool := atSymbol ">"

/-- Reads lifetimes with `+` between them up to a stop. -/
def readLifetimes (stop : List Tree → Bool) : Reader Unit :=
  discard (Reader.separated "+" stop Reader.lifetime)

/-- Reads a lifetime as a parameter, perhaps with the lifetimes that bound it. -/
def readLifetimeParameter : Reader Unit := do
  Reader.lifetime
  if ← Reader.symbol? ":" then
    readLifetimes fun trees => atSymbol "," trees || atAngleEnd trees

/-- Reads the lifetimes that a type is about, if there are any, and tells whether there are. -/
def readBinder? : Reader Bool := do
  unless ← Reader.word? "for" do return false
  Reader.symbol "<"
  discard (Reader.commaList atAngleEnd do
    discard (readAttributes g)
    readLifetimeParameter)
  Reader.symbol ">"
  return true

/-- Reads the result of a function, if there is one, and gives its form. -/
def readResult? : Reader (Option TypeForm) := do
  unless ← Reader.symbol? "->" do return none
  return some (← g.type false)

/-- Reads the parameters and the result of a function behind a path, and tells whether the path may
go on. -/
def readFunctionArguments : Reader Bool := do
  discard (Reader.symbol? "::")
  Reader.inside .paren (discard (Reader.terminated g.skipType))
  let result ← readResult? g
  return result.all (· == .parens)

/-- Whether trees begin with the parameters of a function behind a path. -/
def atFunctionArguments (trees : List Tree) : Bool :=
  atGroup .paren trees || (atSymbol "::" trees && atGroup .paren (trees.drop 2))

/-! ## Paths with arguments -/

/-- Reads a constant as an argument of a type. -/
def readConstant : Reader Unit := do
  if atLiteral (← Reader.ahead) then Reader.literal else g.block

/-- Whether trees begin with a constant that is an argument. -/
def atConstant (trees : List Tree) : Bool := atLiteral trees || atGroup .brace trees

/-- Reads a path in a bound, behind which the parameters of a function may stand. -/
def readBoundPath : Reader Unit := do
  let path ← g.path
  if path.isOpen && atFunctionArguments (← Reader.ahead) then discard (readFunctionArguments g)

/-- Reads a bound that is no lifetime: marks and a path. -/
def readNamedBound : Reader Unit := do
  let bound ← readBinder? g
  if atGroup .bracket (← Reader.ahead) then Reader.inside .bracket (Reader.word "const")
  else if ← Reader.symbol? "~" then Reader.word "const"
  else discard (Reader.word? "const")
  if ← Reader.symbol? "?" then
    unless bound do discard (readBinder? g)
  readBoundPath g

/-- Reads captured parameters. -/
def readCapture : Reader Unit := do
  Reader.word "use"
  Reader.symbol "<"
  discard (Reader.commaList atAngleEnd do
    if atLifetime (← Reader.ahead) then Reader.lifetime
    else unless ← Reader.word? "Self" do discard Reader.identifier)
  Reader.symbol ">"

/-- Reads a bound, and tells whether it is more than a lifetime. -/
def readBound (captures : Bool) : Reader Bool := do
  let trees ← Reader.ahead
  if atLifetime trees then
    Reader.lifetime
    return false
  else if atWord "use" trees then
    readCapture
    unless captures do throw (.misplaced .capture)
    return false
  else if atGroup .paren trees then
    Reader.inside .paren (readNamedBound g)
    return true
  else
    readNamedBound g
    return true

/-- Whether trees begin with a bound. -/
def atBound (trees : List Tree) : Bool :=
  atAnyWord trees || atSymbol "::" trees || atSymbol "?" trees || atLifetime trees ||
    atGroup .paren trees

/-- Reads bounds with `+` between them if the flag allows it, and tells of each whether it is more
than a lifetime. -/
def readBounds (plus captures : Bool) : Reader (List Bool) := do
  let first ← readBound g captures
  if !plus then return [first]
  unless ← Reader.symbol? "+" do return [first]
  return first :: (← Reader.separated "+" (fun trees => !atBound trees) (readBound g captures))

/-- Reads an argument in angle brackets, and tells whether it is a type. -/
def readArgument : Reader Bool := do
  let trees ← Reader.ahead
  if atLifetime trees && !atSymbol "+" (trees.drop 1) then
    Reader.lifetime
    return false
  if atConstant trees then
    readConstant g
    return false
  let form ← g.type true
  unless form.path?.any (·.isSimple) do return true
  -- A name may be followed by what it stands for, or by what bounds it.
  if ← Reader.symbol? "=" then
    if atConstant (← Reader.ahead) then readConstant g else g.skipType
    return false
  if ← Reader.symbol? ":" then
    discard (Reader.separated "+" (fun trees => atSymbol "," trees || atAngleEnd trees)
      (readBound g false))
    return false
  return true

/-- Reads arguments in angle brackets behind a word of a path, and tells of each whether it is a
type. -/
def readAngles : Reader (List Bool) := do
  discard (Reader.symbol? "::")
  Reader.symbol "<"
  let areTypes ← Reader.commaList atAngleEnd (readArgument g)
  Reader.symbol ">"
  return areTypes

/-- Words that stand in a path without arguments. -/
def bareWords : List String := ["super", "self", "crate", "try"]

/-- Whether arguments in angle brackets follow; only in types they may do so without `::`. -/
def atAngles (inType : Bool) (trees : List Tree) : Bool :=
  (inType && atSymbol "<" trees && !atSymbol "<=" trees && !atSymbol "<<=" trees) ||
    (atSymbol "::" trees && atSymbol "<" (trees.drop 2))

/-- Reads a word of a path with its arguments. -/
def readSegment (inType : Bool) : Reader Segment := do
  let trees ← Reader.ahead
  if atOneOf bareWords trees then return ⟨← Reader.anyWord, .none⟩
  let word ← if atWord "Self" trees then Reader.anyWord else Reader.identifier
  if atAngles inType (← Reader.ahead) then return ⟨word, .angles (← readAngles g)⟩
  return ⟨word, .none⟩

/-- Reads the segments behind the first one. -/
def readSegments (inType : Bool) : Reader (List Segment) :=
  Reader.many (fun trees => atSymbol "::" trees && !atGroup .paren (trees.drop 2)) do
    Reader.symbol "::"
    readSegment g inType

/-- Reads a path. -/
def readPath (inType : Bool) : Reader Path := do
  let rooted ← Reader.symbol? "::"
  let first ← readSegment g inType
  return ⟨false, rooted, first :: (← readSegments g inType)⟩

/-- Reads a path, in front of which a type in angle brackets may stand. -/
def readQualifiedPath (inType : Bool) : Reader Path := do
  unless atSymbol "<" (← Reader.ahead) do return ← readPath g inType
  Reader.symbol "<"
  g.skipType
  if ← Reader.word? "as" then discard g.path
  Reader.symbol ">"
  Reader.symbol "::"
  let first ← readSegment g inType
  let others ← Reader.many (atSymbol "::") do
    Reader.symbol "::"
    readSegment g inType
  return ⟨true, false, first :: others⟩

/-! ## Types -/

/-- Reads a path that is a type, with the parameters of functions. -/
def readPathOfType : Reader Path := do
  let step := fun path : Path => do
    unless path.isOpen && atFunctionArguments (← Reader.ahead) do return none
    let mayGoOn ← readFunctionArguments g
    let path := path.withArguments .parens
    if mayGoOn then return some (path.append (← readSegments g true))
    return some path
  Reader.iterate step (← readQualifiedPath g true)

/-- Reads the arguments of a template behind its path, and gives their delimiter, if the path is the
name of one. -/
def readTemplate? (path : Path) : Reader (Option Delimiter) := do
  let trees ← Reader.ahead
  unless path.isPlain && atSymbol "!" trees && !atSymbol "!=" trees do return none
  Reader.symbol "!"
  match ← Reader.ahead with
  | .group delimiter _ :: _ =>
    Reader.advance 1
    return some delimiter
  | _ => Reader.fail .anyGroup

/-- Reads a type that begins with a path; `bound` tells that the lifetimes it is about stand in
front. -/
def readTypeOfPath (plus bound : Bool) : Reader TypeForm := do
  let path ← readPathOfType g
  if path.qualified then return .path path
  if (← readTemplate? path).isSome then return .other
  if plus && atSymbol "+" (← Reader.ahead) then
    Reader.symbol "+"
    discard (Reader.separated "+" (fun trees => !atBound trees) (readBound g false))
    return .bounds false
  return if bound then .bounds true else .path path

/-- Reads the bounds behind a bound in parentheses. -/
def readMoreBounds : Reader TypeForm := do
  if ← Reader.symbol? "+" then discard (Reader.separated "+" (fun _ => false) (readBound g false))
  return .bounds false

/-- Reads the types between parentheses, and gives the form if it is a single one. -/
def readTypesInParens : Reader (Option TypeForm) := do
  let trees ← Reader.ahead
  if trees.isEmpty then return none
  if atLifetime trees then
    unless (← readBounds g true false).any id do throw (.misplaced .lifetimes)
    return some .other
  let first ← g.type true
  unless ← Reader.symbol? "," do return some first
  discard (Reader.terminated g.skipType)
  return none

/-- Whether trees begin with a bound in parentheses that has the mark `?`. -/
def atMarkedBound : List Tree → Bool
  | .group .paren trees :: _ => atSymbol "?" trees
  | _ => false

/-- Reads a type that begins with parentheses. -/
def readTypeOfParens (plus : Bool) : Reader TypeForm := do
  if atMarkedBound (← Reader.ahead) then
    discard (readBound g false)
    return ← readMoreBounds g
  match ← Reader.inside .paren (readTypesInParens g) with
  | some first =>
    let isBound := first == .bounds true || first.path?.any (!·.qualified)
    if plus && isBound && atSymbol "+" (← Reader.ahead) then readMoreBounds g else return .parens
  | none => return .other

/-- Reads a parameter in the type of a function. -/
def readParameter : Reader Unit := do
  discard (readAttributes g)
  let trees ← Reader.ahead
  if atSymbol "..." trees then
    Reader.symbol "..."
    return
  if atWord "mut" trees && atWord "self" (trees.drop 1) then Reader.advance 1
  let trees ← Reader.ahead
  if atAnyWord trees && atSymbol ":" (trees.drop 1) && !atSymbol "::" (trees.drop 1) then
    Reader.advance 2
  unless ← Reader.symbol? "..." do g.skipType

/-- Reads the type of a function. -/
def readFunctionType : Reader TypeForm := do
  discard (Reader.word? "unsafe")
  if ← Reader.word? "extern" then
    if atLiteral (← Reader.ahead) then Reader.literal
  Reader.word "fn"
  Reader.inside .paren (discard (Reader.terminated (readParameter g)))
  discard (readResult? g)
  return .other

/-- Reads a list of bounds in place of a type. -/
def readTypeOfBounds (plus captures : Bool) : Reader Unit := do
  unless (← readBounds g plus captures).any id do throw (.misplaced .lifetimes)

/-- Whether trees begin with a path. -/
def atPath (trees : List Tree) : Bool :=
  atPathWord trees || atSymbol "::" trees || atSymbol "<" trees

/-- Reads a type; the flag allows bounds with `+` between them. -/
def readType (plus : Bool) : Reader TypeForm := do
  let bound ← readBinder? g
  let trees ← Reader.ahead
  if bound && !atPathWord trees && !atOneOf ["fn", "unsafe", "extern"] trees then Reader.fail .type
  if atGroup .paren trees then readTypeOfParens g plus
  else if atOneOf ["fn", "unsafe", "extern"] trees then readFunctionType g
  else if atPath trees then readTypeOfPath g plus bound
  else if atWord "dyn" trees then
    Reader.word "dyn"
    discard (Reader.symbol? "*")
    readTypeOfBounds g plus false
    return .other
  else if atGroup .bracket trees then
    Reader.inside .bracket do
      g.skipType
      if ← Reader.symbol? ";" then g.skipExpression
    return .other
  else if atSymbol "*" trees then
    Reader.symbol "*"
    unless ← Reader.word? "const" do Reader.word "mut"
    discard (g.type false)
    return .other
  else if atSymbol "&" trees then
    Reader.symbol "&"
    if atLifetime (← Reader.ahead) then Reader.lifetime
    discard (Reader.word? "mut")
    discard (g.type false)
    return .other
  else if atSymbol "!" trees then
    Reader.symbol "!"
    return .other
  else if atWord "impl" trees then
    Reader.word "impl"
    readTypeOfBounds g plus true
    return .other
  else if atWord "_" trees then
    Reader.word "_"
    return .other
  else if atLifetime trees then
    readTypeOfBounds g plus false
    return .bounds false
  else Reader.fail .type

end FilterQuery.Declaration
