import FilterQuery.Json
import FilterQuery.Text.Case

/-! # Configuration

`MapperConfig` holds the options of a mapper, and is read from JSON. -/

namespace FilterQuery

/-- Options of a mapper. -/
structure MapperConfig where
  /-- Names of fields are matched exactly instead of without regard to case. -/
  caseSensitiveNames : Bool := false
  /-- The literal `null` behind `=` and `!=` stands for a missing value. -/
  allowNullKeyword : Bool := true
  /-- A comparison of an unknown field holds of every item instead of being an error. -/
  ignoreUnmappedFields : Bool := false
  /-- Strings are compared as if every value carried the mark `/i`. -/
  caseInsensitiveFiltering : Bool := false
  /-- Backends are told to pass over items whose collection is absent. -/
  collectionNullGuard : Bool := true
  /-- Offset from universal time, in seconds, of timestamps without a zone. -/
  defaultOffsetSeconds : Int := 0
  /-- A second field of the same name is an error instead of a replacement. -/
  rejectDuplicateKeys : Bool := false
deriving DecidableEq, Repr, Inhabited

namespace MapperConfig

/-- The offset of timestamps without a zone; one of a day or more counts as none. -/
def defaultOffset (config : MapperConfig) : Int :=
  if -86400 < config.defaultOffsetSeconds ∧ config.defaultOffsetSeconds < 86400 then
    config.defaultOffsetSeconds
  else 0

/-- What two names of a field must have in common to be the same. -/
def nameKey (config : MapperConfig) (name : String) : List Char :=
  if config.caseSensitiveNames then name.toList else Text.lowerEach name.toList

/-- The names of the options in JSON, in order. -/
def optionNames : List String :=
  ["case_sensitive_names", "allow_null_keyword", "ignore_unmapped_fields",
   "case_insensitive_filtering", "collection_null_guard", "default_offset_seconds",
   "reject_duplicate_keys"]

/-- An option that may be left out, but not be of another type. -/
def option? (read : Json → Option α) (default : α) : Option Json → Option α
  | none => some default
  | some value => read value

/-- The configuration in a JSON value.  Options that are left out have their default, and members
that are no options do not matter. -/
def ofJson? (json : Json) : Option MapperConfig := do
  match ← json.settings? optionNames with
  | [names, null, unmapped, filtering, guardAbsent, offset, duplicate] =>
    some {
      caseSensitiveNames := ← option? Json.toBool? false names
      allowNullKeyword := ← option? Json.toBool? true null
      ignoreUnmappedFields := ← option? Json.toBool? false unmapped
      caseInsensitiveFiltering := ← option? Json.toBool? false filtering
      collectionNullGuard := ← option? Json.toBool? true guardAbsent
      defaultOffsetSeconds :=
        ← option? (Json.toInt? Int32.minValue.toInt Int32.maxValue.toInt) 0 offset
      rejectDuplicateKeys := ← option? Json.toBool? false duplicate }
  | _ => none

end MapperConfig

end FilterQuery
