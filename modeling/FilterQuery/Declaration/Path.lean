import FilterQuery.Declaration.Reader

/-! # Paths

A path is a list of words with `::` between them.  In types and expressions its words may have
arguments, and a type in angle brackets may stand in front of it. -/

namespace FilterQuery.Declaration

/-- Arguments behind a word of a path. -/
inductive Arguments where
  | none
  /-- Arguments in angle brackets; for each it is known whether it is a type. -/
  | angles (areTypes : List Bool)
  | parens
deriving DecidableEq, Repr

/-- Whether there are no arguments. -/
def Arguments.isEmpty : Arguments → Bool
  | none => true
  | angles areTypes => areTypes.isEmpty
  | parens => false

/-- A word of a path with its arguments. -/
structure Segment where
  word : String
  arguments : Arguments
deriving DecidableEq, Repr

/-- A path. -/
structure Path where
  /-- Whether a type in angle brackets stands in front. -/
  qualified : Bool
  /-- Whether the path begins with `::`. -/
  rooted : Bool
  segments : List Segment
deriving DecidableEq, Repr

namespace Path

/-- The path of a single word. -/
def ofWord (word : String) : Path := ⟨false, false, [⟨word, .none⟩]⟩

/-- Whether the path is the given word and nothing else. -/
def isWord (path : Path) (word : String) : Bool := path == ofWord word

/-- Whether the path consists of words only. -/
def isPlain (path : Path) : Bool :=
  !path.qualified && path.segments.all fun segment => segment.arguments == .none

/-- Whether the path is a single word, perhaps with arguments in angle brackets. -/
def isSimple (path : Path) : Bool :=
  !path.qualified && !path.rooted &&
    match path.segments with
    | [segment] => segment.arguments != .parens
    | _ => false

/-- Whether the last word has no arguments. -/
def isOpen (path : Path) : Bool := path.segments.getLast?.any (·.arguments.isEmpty)

/-- The path with other arguments behind its last word. -/
def withArguments (path : Path) (arguments : Arguments) : Path :=
  { path with
    segments := path.segments.dropLast ++
      (path.segments.getLast?.map fun segment => { segment with arguments }).toList }

/-- The path with further segments. -/
def append (path : Path) (segments : List Segment) : Path :=
  { path with segments := path.segments ++ segments }

end Path

/-! ## Plain paths -/

/-- Keywords that may stand in a plain path. -/
def pathKeywords : List String := ["super", "self", "Self", "crate"]

/-- Whether trees begin with a word of a plain path. -/
def atPathWord (trees : List Tree) : Bool := atIdentifier trees || atOneOf pathKeywords trees

/-- Reads the words of a plain path; a `::` is followed by a further word. -/
def readWords : Reader (List String) := do
  let step := fun (words, goesOn) => do
    if goesOn && atPathWord (← Reader.ahead) then
      return some ((← Reader.anyWord) :: words, ← Reader.symbol? "::")
    else return none
  let (words, goesOn) ← Reader.iterate step ([], true)
  if words.isEmpty then discard Reader.identifier
  else if goesOn then Reader.fail .segment
  return words.reverse

/-- Reads a plain path. -/
def readPlainPath : Reader Path := do
  let rooted ← Reader.symbol? "::"
  return ⟨false, rooted, (← readWords).map (⟨·, .none⟩)⟩

end FilterQuery.Declaration
