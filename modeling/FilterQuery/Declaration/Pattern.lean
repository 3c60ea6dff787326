import FilterQuery.Declaration.FieldType

/-! # Patterns

Patterns stand in expressions: for the parameters of a function, for the cases of a choice, for what
a loop or a statement gives a name to.  They are read to find where they end. -/

namespace FilterQuery.Declaration

variable (g : Grammar)

/-- Reads alternatives, in front of which a `|` may stand, and tells whether they are one range
without a bound. -/
def readAlternatives : Reader Bool := do
  discard (Reader.symbol? "|")
  let isOpen ← g.pattern
  let others ← Reader.many
    (fun trees => atSymbol "|" trees && !atSymbol "||" trees && !atSymbol "|=" trees) do
      Reader.symbol "|"
      g.pattern
  return isOpen && others.isEmpty

/-- Reads a bound of a range, if there is one, and tells whether there is. -/
def readBoundOfRange : Reader Bool := do
  let trees ← Reader.ahead
  let ends := ["|", "=", ",", ";"].any (atSymbol · trees) || atWord "if" trees ||
    (atSymbol ":" trees && !atSymbol "::" trees)
  if trees.isEmpty || ends then return false
  if atLiteral trees then Reader.literal
  else if atPath trees then discard (readQualifiedPath g false)
  else if atWord "const" trees then
    Reader.advance 1
    g.block
  else Reader.fail .pattern
  return true

/-- Reads the rest of a range from its dots on, and tells whether an end follows. -/
def readEndOfRange (obsolete : Bool) : Reader Bool := do
  let closed ← if ← Reader.symbol? "..=" then pure true
    else if atSymbol "..." (← Reader.ahead) then
      unless obsolete do Reader.fail (.symbol "..")
      Reader.symbol? "..."
    else do
      Reader.symbol ".."
      pure false
  let isBounded ← readBoundOfRange g
  if closed && !isBounded then Reader.fail .upperBound
  return isBounded

/-- Reads the name or the position of a member, and tells whether it is a name. -/
def readMember : Reader Bool := do
  let trees ← Reader.ahead
  if atIdentifier trees then
    Reader.advance 1
    return true
  match trees with
  | .leaf (.integer true) :: _ =>
    Reader.advance 1
    return false
  | _ => Reader.fail .member

/-- Reads the members of a record, up to the dots that stand for the others. -/
def readMembers (member others : Reader Unit) : Reader Unit := do
  discard (Reader.many (fun trees => !trees.isEmpty && !atSymbol ".." trees) do
    member
    unless (← Reader.ahead).isEmpty do Reader.symbol ",")
  if ← Reader.symbol? ".." then others

/-- Reads the pattern of a member of a record. -/
def readMemberPattern : Reader Unit := do
  discard (readAttributes g)
  let boxed ← Reader.word? "box"
  let borrowed ← Reader.word? "ref"
  let changeable ← Reader.word? "mut"
  if boxed || borrowed || changeable then discard Reader.identifier
  else
    let isNamed ← readMember
    if !isNamed || atSymbol ":" (← Reader.ahead) then
      Reader.symbol ":"
      discard (readAlternatives g)

/-- Reads a pattern that begins with a path, and tells whether it is a range without a bound. -/
def readPathPattern : Reader Bool := do
  let path ← readQualifiedPath g false
  if (← readTemplate? path).isSome then return false
  let trees ← Reader.ahead
  if atGroup .brace trees then
    Reader.inside .brace (readMembers (readMemberPattern g) (return))
    return false
  if atGroup .paren trees then
    Reader.inside .paren (discard (Reader.terminated (readAlternatives g)))
    return false
  if atSymbol ".." trees then return !(← readEndOfRange g true)
  return false

/-- Reads a name, perhaps with a pattern for what it stands for. -/
def readNamePattern : Reader Unit := do
  discard (Reader.word? "ref")
  discard (Reader.word? "mut")
  unless ← Reader.word? "self" do discard Reader.identifier
  if ← Reader.symbol? "@" then discard g.pattern

/-- Whether the word at the front begins a path, because of what stands behind it. -/
def atPathPattern (trees : List Tree) : Bool :=
  let behind := trees.drop 1
  (atIdentifier trees &&
      (["::", "!", ".."].any (atSymbol · behind) || atGroup .brace behind || atGroup .paren behind)) ||
    (atWord "self" trees && atSymbol "::" behind) ||
    atSymbol "::" trees || atSymbol "<" trees || atOneOf ["Self", "super", "crate"] trees

/-- Reads a pattern without alternatives, and tells whether it is a range without a bound. -/
def readPattern : Reader Bool := do
  let trees ← Reader.ahead
  if atPathPattern trees then readPathPattern g
  else if atWord "_" trees then
    Reader.advance 1
    return false
  else if atWord "box" trees then
    Reader.advance 1
    g.pattern
  else if atSymbol "-" trees || atLiteral trees || atWord "const" trees then
    discard (readBoundOfRange g)
    if atSymbol ".." (← Reader.ahead) then return !(← readEndOfRange g true)
    return false
  else if atOneOf ["ref", "mut", "self"] trees || atIdentifier trees then
    readNamePattern g
    return false
  else if atSymbol "&" trees then
    Reader.advance 1
    discard (Reader.word? "mut")
    discard g.pattern
    return false
  else if atGroup .paren trees then
    Reader.inside .paren (discard (Reader.terminated (readAlternatives g)))
    return false
  else if atGroup .bracket trees then
    Reader.inside .bracket do
      let areOpen ← Reader.terminated (readAlternatives g)
      if areOpen.any id then throw (.misplaced .openRange)
    return false
  else if atSymbol ".." trees && !atSymbol "..." trees then
    -- Two dots alone stand for the other members, not for a range.
    readEndOfRange g false
  else Reader.fail .pattern

end FilterQuery.Declaration
