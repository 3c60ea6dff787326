import FilterQuery.Filter.Token

/-! # Filter expressions

A filter is a tree of comparisons joined by conjunctions.  Nodes carry no places, so texts that
differ only in blanks have equal trees; places are kept in the diagnostics of a `FilterTree`. -/

namespace FilterQuery

/-- An expression of the filter language.  Trees built by hand may put any expression on either
side of a comparison. -/
inductive Expr where
  /-- Two filters joined by a conjunction. -/
  | logical (left : Expr) (conjunction : Conjunction) (right : Expr)
  | comparison (left : Expr) (operator : Operator) (right : Expr)
  /-- A filter in parentheses. -/
  | group (inner : Expr)
  /-- A field by name, with the key of an index if there is one. -/
  | field (name : String) (index : Option String)
  /-- The text of a value, escapes resolved; `ignoreCase` tells whether the mark `/i` follows. -/
  | value (raw : String) (ignoreCase : Bool)
deriving DecidableEq, Repr, Inhabited

/-- A field that a filter refers to. -/
structure FieldUse where
  member : String
  index : Option String
deriving DecidableEq, Repr

/-- The fields an expression refers to, from left to right.  The empty name stands for a field
that is missing in the text, and is left out. -/
def Expr.fields : Expr → List FieldUse
  | .logical left _ right => left.fields ++ right.fields
  | .comparison left _ right => left.fields ++ right.fields
  | .group inner => inner.fields
  | .field name index => if name = "" then [] else [⟨name, index⟩]
  | .value _ _ => []

/-- A filter as read from a text: its expression and what is wrong with the text. -/
structure FilterTree where
  root : Expr
  diagnostics : List Diagnostic := []
deriving DecidableEq, Repr

namespace FilterTree

/-- Whether nothing is wrong with the filter. -/
def isValid (tree : FilterTree) : Bool := tree.diagnostics.isEmpty

/-- The fields the filter refers to, from left to right. -/
def fields (tree : FilterTree) : List FieldUse := tree.root.fields

end FilterTree

end FilterQuery
