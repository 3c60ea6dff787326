import FilterQuery.Declaration.Constant
import FilterQuery.Declaration.Settings
import FilterQuery.Declaration.TypeDeclaration

/-! # Schemas derived from declarations

From the declaration of a record follows an outline of its schema: for each field that is not
skipped, its name in filters, a constant for that name, and how the schema describes the field. -/

namespace FilterQuery.Declaration

/-- What is wrong with a declaration that has no outline. -/
inductive DeclarationProblem where
  | form (problem : FormProblem)
  | settings (problem : SettingProblem)
  | unnamedFields
  | notRecord
  /-- The name of a field does not make the name of a constant. -/
  | noConstant (field : String)
deriving DecidableEq, Repr

/-- The problem in words.  A name without constant is not reported but stops the derivation. -/
def DeclarationProblem.message? : DeclarationProblem → Option String
  | form problem => some problem.message
  | settings problem => some problem.message
  | unnamedFields => some "Schema can only be derived for structs with named fields"
  | notRecord => some "Schema can only be derived for structs"
  | noConstant _ => none

/-! ## Outlines -/

/-- How a schema describes a field. -/
structure FieldOutline where
  /-- The name in filters. -/
  name : String
  /-- The name in the declaration. -/
  field : String
  isList : Bool
  isRecord : Bool
  optional : Bool
deriving DecidableEq, Repr

namespace FieldOutline

/-- The name of the constant for the name in filters. -/
def constant (outline : FieldOutline) : String := constantName outline.name

/-- The sort of description.  It does not matter whether a single value is optional. -/
def method (outline : FieldOutline) : String :=
  match outline.isList, outline.isRecord, outline.optional with
  | false, false, _ => "scalar"
  | false, true, false => "record"
  | false, true, true => "optional_record"
  | true, false, false => "scalars"
  | true, false, true => "optional_scalars"
  | true, true, false => "records"
  | true, true, true => "optional_records"

/-- How the field is read from a record that is called `it`. -/
def access (outline : FieldOutline) : String :=
  let field := "it." ++ outline.field
  match outline.isList, outline.isRecord, outline.optional with
  | true, _, true => field ++ ".as_deref()"
  | true, _, false => "&" ++ field ++ "[..]"
  | false, true, true => field ++ ".as_ref()"
  | false, _, _ => "&" ++ field

end FieldOutline

/-- What comes of a declaration can be compared. -/
instance decidableEqExcept {ε α : Type} [DecidableEq ε] [DecidableEq α] : DecidableEq (Except ε α)
  | .error problem, .error problem' => decidable_of_iff (problem = problem') (by simp)
  | .ok a, .ok b => decidable_of_iff (a = b) (by simp)
  | .error _, .ok _ => isFalse (by simp)
  | .ok _, .error _ => isFalse (by simp)

/-- The outline of a field, or nothing if it is skipped. -/
def FieldDeclaration.outline? (field : FieldDeclaration) :
    Except DeclarationProblem (Option FieldOutline) :=
  match FieldSettings.ofAttributes field.attributes with
  | .error problem => .error (.settings problem)
  | .ok settings =>
    let name := settings.rename.getD field.name
    if settings.skip then .ok none
    else if hasConstant name then
      .ok (some {
        name, field := field.name, isList := settings.list, isRecord := settings.nested,
        optional := field.optional })
    else .error (.noConstant name)

/-- The outlines of fields, in order. -/
def outlineFields : List FieldDeclaration → Except DeclarationProblem (List FieldOutline)
  | [] => .ok []
  | field :: fields =>
    match field.outline? with
    | .error problem => .error problem
    | .ok outline => (outlineFields fields).map (outline.toList ++ ·)

/-- The outline of the schema of a type. -/
def TypeDeclaration.outline : TypeDeclaration → Except DeclarationProblem (List FieldOutline)
  | record fields => outlineFields fields
  | unnamed => .error .unnamedFields
  | other => .error .notRecord

/-- The outline of the schema of the type that a text declares. -/
def outlineOf (text : String) : Except DeclarationProblem (List FieldOutline) :=
  match TypeDeclaration.read text with
  | .ok declaration => declaration.outline
  | .error problem => .error (.form problem)

end FilterQuery.Declaration
