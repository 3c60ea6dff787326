import FilterQuery.Declaration.Depth

/-! # Declarations of types

A declaration has attributes, a visibility, a name, parameters and a content.  What matters is what
sort of type it is and, for a record with named fields, its fields. -/

namespace FilterQuery.Declaration

/-- A field in the declaration of a record. -/
structure FieldDeclaration where
  name : String
  /-- Whether the type of the field is a type of optional values. -/
  optional : Bool
  attributes : List Entry

/-- The declaration of a type. -/
inductive TypeDeclaration where
  /-- A record with named fields. -/
  | record (fields : List FieldDeclaration)
  /-- A record whose fields have no names. -/
  | unnamed
  /-- A type that is not a record. -/
  | other

/-! ## Parameters -/

variable (g : Grammar)

/-- Reads who may see what is declared. -/
def readVisibility : Reader Unit := do
  unless ← Reader.word? "pub" do return
  match ← Reader.ahead with
  | .group .paren [.leaf (.word word)] :: _ =>
    if ["crate", "self", "super"].contains word then Reader.advance 1
  | .group .paren (.leaf (.word "in") :: _) :: _ =>
    Reader.inside .paren do
      Reader.word "in"
      discard readPlainPath
  | _ => return

/-- Reads bounds behind a parameter up to a stop. -/
def readParameterBounds (stop : List Tree → Bool) : Reader Unit :=
  discard (Reader.separated "+" stop (readBound g false))

/-- Reads a parameter of a type. -/
def readTypeParameter : Reader Unit := do
  discard (readAttributes g)
  if atLifetime (← Reader.ahead) then readLifetimeParameter
  else if ← Reader.word? "const" then
    discard Reader.identifier
    Reader.symbol ":"
    g.skipType
    if ← Reader.symbol? "=" then readConstant g
  else
    unless ← Reader.word? "_" do discard Reader.identifier
    if ← Reader.symbol? ":" then
      readParameterBounds g fun trees => [",", ">", "="].any (atSymbol · trees)
    if ← Reader.symbol? "=" then g.skipType

/-- Reads the parameters of a type, if there are any. -/
def readTypeParameters : Reader Unit := do
  unless ← Reader.symbol? "<" do return
  discard (Reader.commaList atAngleEnd (readTypeParameter g))
  Reader.symbol ">"

/-- Whether the conditions on the parameters of a type end in front of trees. -/
def atConditionEnd (trees : List Tree) : Bool :=
  trees.isEmpty || atGroup .brace trees || [",", ";", "="].any (atSymbol · trees) ||
    (atSymbol ":" trees && !atSymbol "::" trees)

/-- Reads a condition on the parameters of a type. -/
def readParameterCondition : Reader Unit := do
  let trees ← Reader.ahead
  if atLifetime trees && atSymbol ":" (trees.drop 1) then
    Reader.advance 2
    readLifetimes atConditionEnd
  else
    discard (readBinder? g)
    g.skipType
    Reader.symbol ":"
    readParameterBounds g atConditionEnd

/-- Reads the conditions on the parameters of a type, if there are any. -/
def readParameterConditions : Reader Unit := do
  unless ← Reader.word? "where" do return
  discard (Reader.separated "," atConditionEnd (readParameterCondition g))

/-! ## Fields -/

/-- Reads a field with a name. -/
def readNamedField : Reader FieldDeclaration := do
  let attributes ← readAttributes g
  readVisibility
  let name ← if atWord "_" (← Reader.ahead) then Reader.anyWord else Reader.identifier
  Reader.symbol ":"
  return { name, optional := (← g.type true).isOptional, attributes }

/-- Reads the fields of a record in braces. -/
def readNamedFields : Reader (List FieldDeclaration) :=
  Reader.inside .brace (Reader.terminated (readNamedField g))

/-- Reads fields without names. -/
def readUnnamedFields : Reader Unit :=
  Reader.inside .paren do
    discard (Reader.terminated do
      discard (readAttributes g)
      readVisibility
      g.skipType)

/-- Reads a variant of a type. -/
def readVariant : Reader Unit := do
  discard (readAttributes g)
  readVisibility
  discard Reader.identifier
  let trees ← Reader.ahead
  if atGroup .brace trees then discard (readNamedFields g)
  else if atGroup .paren trees then readUnnamedFields g
  if ← Reader.symbol? "=" then g.skipExpression

/-! ## Declarations -/

/-- Reads what follows the parameters of a record. -/
def readRecordContent : Reader TypeDeclaration := do
  if atGroup .paren (← Reader.ahead) then
    readUnnamedFields g
    readParameterConditions g
    Reader.symbol ";"
    return .unnamed
  readParameterConditions g
  if atGroup .brace (← Reader.ahead) then return .record (← readNamedFields g)
  Reader.symbol ";"
  return .unnamed

/-- Reads the declaration of a type. -/
def readTypeDeclaration : Reader TypeDeclaration := do
  discard (readAttributes g)
  readVisibility
  let sort ← Reader.anyWord
  unless ["struct", "enum", "union"].contains sort do Reader.fail (.word "struct")
  discard Reader.identifier
  readTypeParameters g
  if sort == "struct" then readRecordContent g
  else
    readParameterConditions g
    if sort == "enum" then Reader.inside .brace (discard (Reader.terminated (readVariant g)))
    else discard (readNamedFields g)
    return .other

/-- Reads a text that is the declaration of a type. -/
def TypeDeclaration.read (text : String) : Except FormProblem TypeDeclaration :=
  match (lexemes? text).bind trees? with
  | none => .error .unreadable
  | some trees =>
    match (readTypeDeclaration (.forTrees trees)).run ⟨trees, true⟩ with
    | .error problem => .error problem
    | .ok (declaration, after) =>
      if after.whole && after.trees.isEmpty then .ok declaration else .error .leftover

end FilterQuery.Declaration
