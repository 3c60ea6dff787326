import FilterQuery.Declaration.Expression

/-! # Statements

The content of a block: expressions, names for values, and items, with semicolons between them.  Of
an item it only matters where it ends. -/

namespace FilterQuery.Declaration

variable (g : Grammar)

/-- Whether trees end with a group in braces. -/
def endsWithBrace (trees : List Tree) : Bool :=
  match trees.getLast? with
  | some (.group .brace _) => true
  | _ => false

/-- Reads a name for a value, and what is done if the value does not fit. -/
def readLocal : Reader Unit := do
  Reader.word "let"
  discard g.pattern
  if ← Reader.symbol? ":" then g.skipType
  if ← Reader.symbol? "=" then
    let trees ← Reader.ahead
    g.skipExpression
    let value := trees.take (trees.length - (← Reader.ahead).length)
    unless endsWithBrace value do
      if ← Reader.word? "else" then g.block
  Reader.symbol ";"

/-! ## Items -/

/-- Words that begin an item wherever they stand. -/
def itemWords : List String :=
  ["pub", "extern", "use", "fn", "mod", "type", "struct", "enum", "trait", "impl", "macro"]

/-- Words that begin a function behind another word. -/
def functionWords : List String := ["unsafe", "extern", "fn"]

/-- Whether trees begin with an item. -/
def atItem (trees : List Tree) : Bool :=
  let behind := trees.drop 1
  let further := trees.drop 2
  atOneOf itemWords trees ||
    (atWord "crate" trees && !atSymbol "::" behind) ||
    (atWord "static" trees && (atWord "mut" behind || atIdentifier behind)) ||
    (atWord "const" trees &&
      !(atGroup .brace behind || atOneOf ["static", "move"] behind || atSymbol "|" behind ||
        (atWord "async" behind && !atOneOf functionWords further))) ||
    (atWord "unsafe" trees && !atGroup .brace behind) ||
    (atWord "async" trees && atOneOf functionWords behind) ||
    (atWord "union" trees && atIdentifier behind) ||
    (atWord "auto" trees && atWord "trait" behind) ||
    (atWord "default" trees && atOneOf ["unsafe", "impl"] behind)

/-- Whether an item ends at a semicolon only. -/
def endsAtSemicolon (trees : List Tree) : Bool :=
  atOneOf ["use", "static", "type"] trees ||
    (atWord "const" trees && !atOneOf ("async" :: functionWords) (trees.drop 1))

/-- Reads an item up to a semicolon or, if it may end there, up to a group in braces. -/
def readItem : Reader Unit := do
  if ← Reader.word? "pub" then
    if atGroup .paren (← Reader.ahead) then Reader.advance 1
  let byBrace := !endsAtSemicolon (← Reader.ahead)
  let endsAt := fun trees => atSymbol ";" trees || (byBrace && atGroup .brace trees)
  discard (Reader.many (fun trees => !trees.isEmpty && !endsAt trees) (Reader.advance 1))
  if byBrace && atGroup .brace (← Reader.ahead) then Reader.advance 1
  else Reader.symbol ";"

/-! ## Blocks -/

/-- What follows the path at the front of a source. -/
def behindPath? (source : Source) : Option Source :=
  match readPlainPath.run source with
  | .ok (_, after) => some after
  | .error _ => none

/-- Whether trees behind a path begin with the use of a template that is a statement. -/
def atTemplateStatement (trees : List Tree) : Bool :=
  let further := trees.drop 2
  atSymbol "!" trees && atGroup .brace (trees.drop 1) &&
    !((atSymbol "." further && !atSymbol ".." further) || atSymbol "?" further)

/-- Whether trees behind a path begin with the use of a template that gives something a name. -/
def atTemplateItem (trees : List Tree) : Bool :=
  atSymbol "!" trees && (atIdentifier (trees.drop 1) || atWord "try" (trees.drop 1))

/-- Reads a statement, and tells whether another one may follow. -/
def readStatement : Reader Bool := do
  discard (readAttributes g)
  let trees ← Reader.ahead
  match (behindPath? (← get)).map (·.trees) with
  | some behind =>
    if atTemplateStatement behind then
      Reader.advance (trees.length - behind.length + 2)
      discard (Reader.symbol? ";")
      return true
    if atTemplateItem behind then
      readItem
      return true
  | none => pure ()
  if atWord "let" trees then
    readLocal g
    return true
  if atItem trees then
    readItem
    return true
  let form ← readEarly g
  return (← Reader.symbol? ";") || form == .block || form == .template true

/-- Reads the content of a block. -/
def readStatements : Reader Unit := do
  let step := fun (_ : Unit) => do
    discard (Reader.many (atSymbol ";") (Reader.symbol ";"))
    if (← Reader.ahead).isEmpty then return none
    let mayGoOn ← readStatement g
    unless mayGoOn || (← Reader.ahead).isEmpty do throw (.misplaced .statement)
    return some ()
  Reader.iterate step ()

end FilterQuery.Declaration
