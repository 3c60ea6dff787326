import FilterQuery.Access.Accessor

/-! # Schemas

A `Schema τ ι` describes the fields of each record type `τ`.  `Schema.expand` lists the fields that
can be filtered by, with dotted names, down to a given number of nested records. -/

namespace FilterQuery

/-- How a field of a record type is described. -/
inductive Shape (τ ι : Type) where
  /-- A single value. -/
  | scalar (kind : FieldKind) (nullable : Bool) (read : ι → Value)
  /-- A field with an accessor of its own. -/
  | accessor (accessor : Accessor ι)
  /-- A record of another type inside the record. -/
  | record (hop : ι → ι) (type : τ)
  /-- The same, where the inner record may be missing. -/
  | optionalRecord (hop : ι → Option ι) (type : τ)
  /-- A collection of single values. -/
  | scalars (kind : FieldKind) (nullable : Bool) (elements : ι → List ι) (read : ι → Value)
  /-- The same, where the collection may be absent. -/
  | optionalScalars (kind : FieldKind) (nullable : Bool) (elements : ι → Option (List ι))
      (read : ι → Value)
  /-- A collection of records. -/
  | records (elements : ι → List ι) (type : τ)
  /-- The same, where the collection may be absent. -/
  | optionalRecords (elements : ι → Option (List ι)) (type : τ)

/-- The fields of each record type, in order. -/
abbrev Schema (τ ι : Type) := τ → List (String × Shape τ ι)

namespace Shape

variable {τ ι : Type}

/-- The accessor of a field that is not a record or a collection of records. -/
def leaf? (name : String) : Shape τ ι → Option (Accessor ι)
  | scalar kind nullable read => some ((Accessor.computed kind nullable read).withPath name)
  | accessor a => some a
  | scalars kind nullable elements read =>
    some (.each name (fun item => some (elements item)) (.computed kind nullable read))
  | optionalScalars kind nullable elements read =>
    some (.each name elements (.computed kind nullable read))
  | _ => none

/-- The record type of a nested field, and how the accessors of that type are read through it. -/
def nested? (name : String) : Shape τ ι → Option (τ × (Accessor ι → Accessor ι))
  | record hop type => some (type, fun a => a.lift name (fun item => some (hop item)) false)
  | optionalRecord hop type => some (type, fun a => a.lift name hop true)
  | records elements type => some (type, .each name fun item => some (elements item))
  | optionalRecords elements type => some (type, .each name elements)
  | _ => none

end Shape

namespace Schema

variable {τ ι : Type}

/-- The fields that can be filtered by, with dotted names: those of the type itself, and those of
records inside it that lie at most `depth` deep. -/
def expand (schema : Schema τ ι) : (depth : Nat) → τ → List (String × Accessor ι)
  | 0, type => (schema type).filterMap fun (name, shape) => (shape.leaf? name).map (name, ·)
  | depth + 1, type => (schema type).flatMap fun (name, shape) =>
    match shape.nested? name with
    | some (inner, wrap) =>
      (schema.expand depth inner).map fun (field, a) => (name ++ "." ++ field, wrap a)
    | none => ((shape.leaf? name).map (name, ·)).toList

end Schema

end FilterQuery
