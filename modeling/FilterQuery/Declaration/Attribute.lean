import FilterQuery.Declaration.Grammar

/-! # Attributes of declarations

An attribute is an `Entry`: a path alone, a path with a value, or a path with arguments in
delimiters.  The arguments of the attributes that matter here are entries with commas between
them:

    entries := (entry (',' entry)* ','?)?
    entry   := path | path '=' expression | path group
    path    := '::'? word ('::' word)*

Of a value it only matters whether it is a text in quotes. -/

namespace FilterQuery.Declaration

/-- One entry of an attribute, or an attribute as a whole. -/
inductive Entry where
  | flag (path : Path)
  /-- A path with a value, which is given if it is a text in quotes. -/
  | assigned (path : Path) (value : Option String)
  /-- A path with arguments in delimiters. -/
  | list (path : Path) (arguments : List Tree)

/-- The path of an entry. -/
def Entry.path : Entry → Path
  | flag path | assigned path _ | list path _ => path

/-- Whether trees begin with a `=` that is not the first sign of another symbol. -/
def atAssignment (trees : List Tree) : Bool :=
  atSymbol "=" trees && !atSymbol "==" trees && !atSymbol "=>" trees

/-- Reads the path of an entry.  The word `unsafe` is a path of its own. -/
def readEntryPath : Reader Path := do
  if ← Reader.word? "unsafe" then return .ofWord "unsafe"
  readPlainPath

variable (g : Grammar)

/-- Reads the value of an entry. -/
def readValue : Reader (Option String) := do
  let trees ← Reader.ahead
  if atSymbol "#" trees && atGroup .bracket (trees.drop 1) then
    throw (.misplaced .attributeOfAttribute)
  match ← g.expression true with
  | .text value => return some value
  | _ => return none

/-- Reads an entry. -/
def readEntry : Reader Entry := do
  let path ← readEntryPath
  let trees ← Reader.ahead
  match trees with
  | .group _ arguments :: _ =>
    Reader.advance 1
    return .list path arguments
  | _ =>
    if atAssignment trees then
      Reader.advance 1
      return .assigned path (← readValue g)
    return .flag path

/-- Reads entries with commas between them, up to the end. -/
def readEntries : Reader (List Entry) := Reader.terminated (readEntry g)

/-- Reads the attributes of what follows. -/
def readAttributes : Reader (List Entry) :=
  Reader.many (atSymbol "#") do
    Reader.symbol "#"
    Reader.inside .bracket (readEntry g)

/-- Reads the attributes of what they stand in. -/
def readInnerAttributes : Reader (List Entry) :=
  Reader.many (fun trees => atSymbol "#" trees && atSymbol "!" (trees.drop 1)) do
    Reader.advance 2
    Reader.inside .bracket (readEntry g)

end FilterQuery.Declaration
