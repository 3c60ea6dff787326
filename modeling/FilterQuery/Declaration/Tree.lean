import FilterQuery.Declaration.Lexeme

/-! # Trees of lexemes

Delimiters match and are nested, so the lexemes of a declaration make `Tree`s: a tree is a lexeme
or a group, that is, what stands between two delimiters.

## Key results

* `lexemesOf_trees?`: trees hold the lexemes that they were made of, in order -/

namespace FilterQuery.Declaration

/-- A lexeme, or what stands between two delimiters. -/
inductive Tree where
  | leaf (lexeme : Lexeme)
  | group (delimiter : Delimiter) (trees : List Tree)

mutual

/-- The lexemes of a tree. -/
def Tree.lexemes : Tree → List Lexeme
  | .leaf lexeme => [lexeme]
  | .group delimiter trees => .opening delimiter :: (lexemesOf trees ++ [.closing delimiter])

/-- The lexemes of trees. -/
def lexemesOf : List Tree → List Lexeme
  | [] => []
  | tree :: trees => tree.lexemes ++ lexemesOf trees

end

/-- A group that is not closed: its delimiter, and the trees in front of it, last one first. -/
structure OpenGroup where
  delimiter : Delimiter
  front : List Tree

/-- Makes trees of lexemes, behind the `done` trees of the innermost group, last one first.  There
are no trees if a group is not closed by the delimiter that opened it. -/
def gatherTrees (groups : List OpenGroup) (done : List Tree) : List Lexeme → Option (List Tree)
  | [] => if groups.isEmpty then some done.reverse else none
  | .opening delimiter :: rest => gatherTrees (⟨delimiter, done⟩ :: groups) [] rest
  | .closing delimiter :: rest =>
    match groups with
    | [] => none
    | outer :: groups =>
      if outer.delimiter = delimiter then
        gatherTrees groups (.group delimiter done.reverse :: outer.front) rest
      else none
  | lexeme :: rest => gatherTrees groups (.leaf lexeme :: done) rest

/-- The trees of lexemes, or nothing if delimiters do not match. -/
def trees? (lexemes : List Lexeme) : Option (List Tree) := gatherTrees [] [] lexemes

/-! ## Nothing is lost -/

theorem lexemesOf_append (front back : List Tree) :
    lexemesOf (front ++ back) = lexemesOf front ++ lexemesOf back := by
  induction front with
  | nil => rfl
  | cons tree front ih => simp [lexemesOf, ih]

/-- The lexemes in front of the innermost group and of what it holds so far. -/
def lexemesBefore : List OpenGroup → List Lexeme
  | [] => []
  | outer :: groups =>
    lexemesBefore groups ++ lexemesOf outer.front.reverse ++ [.opening outer.delimiter]

theorem lexemesOf_gatherTrees {groups : List OpenGroup} {done trees : List Tree}
    {lexemes : List Lexeme} (h : gatherTrees groups done lexemes = some trees) :
    lexemesOf trees = lexemesBefore groups ++ lexemesOf done.reverse ++ lexemes := by
  induction lexemes generalizing groups done with
  | nil =>
    unfold gatherTrees at h
    split at h
    · rename_i hempty
      obtain rfl := List.isEmpty_iff.1 hempty
      obtain rfl := Option.some.inj h
      simp [lexemesBefore]
    · cases h
  | cons lexeme lexemes ih =>
    unfold gatherTrees at h
    split at h
    · contradiction
    · rename_i heq
      obtain ⟨rfl, rfl⟩ := List.cons.inj heq
      simpa [lexemesBefore, lexemesOf] using ih h
    · rename_i heq
      obtain ⟨rfl, rfl⟩ := List.cons.inj heq
      split at h
      · cases h
      · split at h
        -- The group is one more tree of the group around it.
        · rename_i heq
          subst heq
          simpa [lexemesBefore, lexemesOf, lexemesOf_append, Tree.lexemes] using ih h
        · cases h
    · rename_i heq
      obtain ⟨rfl, rfl⟩ := List.cons.inj heq
      simpa [lexemesOf, lexemesOf_append, Tree.lexemes] using ih h

/-- Trees hold the lexemes that they were made of, in order. -/
theorem lexemesOf_trees? {lexemes : List Lexeme} {trees : List Tree}
    (h : trees? lexemes = some trees) : lexemesOf trees = lexemes := by
  simpa [lexemesBefore, lexemesOf] using lexemesOf_gatherTrees h

/-! ## What stands at the front of trees -/

/-- Whether trees begin with a word. -/
def atAnyWord : List Tree → Bool
  | .leaf (.word _) :: _ => true
  | _ => false

/-- Whether trees begin with the given word. -/
def atWord (word : String) : List Tree → Bool
  | .leaf (.word first) :: _ => first == word
  | _ => false

/-- Whether trees begin with one of the given words. -/
def atOneOf (words : List String) (trees : List Tree) : Bool := words.any (atWord · trees)

/-- Words that are not identifiers. -/
def keywords : List String :=
  ["_", "abstract", "as", "async", "await", "become", "box", "break", "const", "continue", "crate",
   "do", "dyn", "else", "enum", "extern", "false", "final", "fn", "for", "if", "impl", "in", "let",
   "loop", "macro", "match", "mod", "move", "mut", "override", "priv", "pub", "ref", "return",
   "Self", "self", "static", "struct", "super", "trait", "true", "try", "type", "typeof", "unsafe",
   "unsized", "use", "virtual", "where", "while", "yield"]

/-- Whether trees begin with an identifier. -/
def atIdentifier : List Tree → Bool
  | .leaf (.word word) :: _ => !keywords.contains word
  | _ => false

/-- Whether trees begin with the characters of a symbol, joined. -/
def atChars : List Char → List Tree → Bool
  | [c], .leaf (.sign first _) :: _ => first == c
  | c :: cs, .leaf (.sign first true) :: rest => first == c && atChars cs rest
  | _, _ => false

/-- Whether trees begin with a symbol; more signs may follow. -/
def atSymbol (symbol : String) (trees : List Tree) : Bool := atChars symbol.toList trees

/-- Whether trees begin with a group. -/
def atGroup (delimiter : Delimiter) : List Tree → Bool
  | .group first _ :: _ => first == delimiter
  | _ => false

/-- Whether trees begin with a lifetime. -/
def atLifetime : List Tree → Bool
  | .leaf .lifetime :: _ => true
  | _ => false

/-- Whether trees begin with a number. -/
def atNumber : List Tree → Bool
  | .leaf (.integer _) :: _ | .leaf (.decimal _) :: _ => true
  | _ => false

/-- Number of trees of the literal at the front; zero if there is none.  A number may have a
sign. -/
def literalSize : List Tree → Nat
  | .leaf (.text _) :: _ | .leaf .literal :: _ => 1
  | .leaf (.integer _) :: _ | .leaf (.decimal _) :: _ => 1
  | .leaf (.word word) :: _ => if word == "true" || word == "false" then 1 else 0
  | .leaf (.sign c _) :: rest => if c == '-' && atNumber rest then 2 else 0
  | _ => 0

/-- Whether trees begin with a literal. -/
def atLiteral (trees : List Tree) : Bool := literalSize trees != 0

end FilterQuery.Declaration
