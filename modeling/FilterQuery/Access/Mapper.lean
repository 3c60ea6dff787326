import FilterQuery.Access.Schema
import FilterQuery.Config
import FilterQuery.FilterError
import FilterQuery.Operators

/-! # Mappers

A `Mapper ι` holds the fields that filters on items of type `ι` may use.  Fields keep the order in
which they were first added; two names with the same key are the same field.

## Key results

* `hasField_eq_isSome_find?`: a field is there if its name stands for one -/

namespace FilterQuery

/-- What the name of a field stands for. -/
inductive Mapping (ι : Type) where
  | single (accessor : Accessor ι)
  /-- Several accessors, any of which may satisfy a condition. -/
  | composite (first : Accessor ι) (rest : List (Accessor ι))
  /-- An accessor for each key of an index. -/
  | parametrized (ofKey : String → Accessor ι)

/-- A field that filters may use. -/
structure FieldMap (ι : Type) where
  name : String
  mapping : Mapping ι
  /-- Turns the text of a literal into a value, in place of reading it by the kind of the field. -/
  convertor : Option (String → Option Value) := none

namespace FieldMap

variable {ι : Type}

/-- A field with several accessors, of which there has to be one. -/
def composite (name : String) : List (Accessor ι) → Except FilterError (FieldMap ι)
  | [] => .error (.emptyComposite name)
  | first :: rest => .ok { name, mapping := .composite first rest }

/-- Whether the field has several accessors. -/
def isComposite (map : FieldMap ι) : Bool :=
  match map.mapping with
  | .composite _ _ => true
  | _ => false

/-- Whether the field takes an index. -/
def isParametrized (map : FieldMap ι) : Bool :=
  match map.mapping with
  | .parametrized _ => true
  | _ => false

/-- The accessors for a use of the field with the given index, the first one apart. -/
def accessors (map : FieldMap ι) (index : Option String) :
    Except FilterError (Accessor ι × List (Accessor ι)) :=
  match map.mapping, index with
  | .single a, none => .ok (a, [])
  | .composite first rest, none => .ok (first, rest)
  | .parametrized ofKey, some key => .ok (ofKey key, [])
  | .parametrized _, none => .error (.invalidShape (.needsIndex map.name))
  | _, some _ => .error (.invalidShape (.takesNoIndex map.name))

end FieldMap

/-- The fields that filters may use, with options and custom operators. -/
structure Mapper (ι : Type) where
  config : MapperConfig := {}
  maps : List (FieldMap ι) := []
  operators : OperatorRegistry := {}

namespace Mapper

variable {ι : Type}

/-- Whether a field has the given name. -/
def isNamed (m : Mapper ι) (name : String) (map : FieldMap ι) : Bool :=
  m.config.nameKey map.name == m.config.nameKey name

/-- The field of the given name. -/
def find? (m : Mapper ι) (name : String) : Option (FieldMap ι) := m.maps.find? (m.isNamed name)

/-- Whether there is a field of the given name. -/
def hasField (m : Mapper ι) (name : String) : Bool := m.maps.any (m.isNamed name)

theorem hasField_eq_isSome_find? (m : Mapper ι) (name : String) :
    m.hasField name = (m.find? name).isSome := by
  rw [find?, hasField, List.isSome_find?]

/-- The names of the fields, in order. -/
def fields (m : Mapper ι) : List String := m.maps.map (·.name)

/-- Adds a field.  A field of the same name is replaced in its place, or is an error if the
configuration says so. -/
def add (m : Mapper ι) (map : FieldMap ι) : Except FilterError (Mapper ι) :=
  match m.maps.findIdx? (m.isNamed map.name) with
  | some i =>
    if m.config.rejectDuplicateKeys then .error (.duplicateField map.name)
    else .ok { m with maps := m.maps.set i map }
  | none => .ok { m with maps := m.maps ++ [map] }

/-- Removes the field of the given name. -/
def remove (m : Mapper ι) (name : String) : Mapper ι :=
  { m with maps := m.maps.eraseP (m.isNamed name) }

/-- Removes all fields. -/
def clear (m : Mapper ι) : Mapper ι := { m with maps := [] }

/-- Adds fields with single accessors, except for names that are taken. -/
def addMissing (m : Mapper ι) (fields : List (String × Accessor ι)) : Mapper ι :=
  fields.foldl (fun m (name, accessor) =>
    if m.hasField name then m
    else { m with maps := m.maps ++ [{ name, mapping := .single accessor }] }) m

/-- Adds the fields that a schema describes for a type, except for names that are taken. -/
def autoPopulate (m : Mapper ι) {τ : Type} (schema : Schema τ ι) (type : τ) (depth : Nat) :
    Mapper ι :=
  m.addMissing (schema.expand depth type)

/-- The first reason why a filter cannot be used with the fields, if any: the filter is not valid,
or it refers to a field that is not there. -/
def check (m : Mapper ι) (tree : FilterTree) : Except FilterError Unit :=
  if !tree.isValid then .error (.invalidFilter tree.diagnostics)
  else if m.config.ignoreUnmappedFields then .ok ()
  else
    match tree.fields.find? fun field => !m.hasField field.member with
    | some field => .error (.unmappedField field.member)
    | none => .ok ()

end Mapper

end FilterQuery
