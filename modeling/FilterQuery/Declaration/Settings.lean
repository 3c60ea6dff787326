import FilterQuery.Declaration.Depth

/-! # Settings of fields

Attributes with the path `schema` say how a field enters the schema of its record.  Their arguments
are entries: the flags `skip`, `nested` and `list`, and `rename` with a name.

## Key results

* `addEntries_append`: the entries of one attribute are added one after the other
* `addEntries_eq_merge`: it does not matter whether entries are added to settings, or make settings of
  their own that are merged with them -/

namespace FilterQuery.Declaration

/-- What can be wrong with the settings of a field. -/
inductive SettingProblem where
  /-- The arguments of an attribute are not entries with commas between them. -/
  | form (problem : FormProblem)
  | noArguments
  | noParentheses
  | unknownFlag
  | unknownAssignment
  /-- The name behind `rename` is not a text in quotes, or is empty. -/
  | unfitName
  | unknownList
deriving DecidableEq, Repr

/-- The problem in words. -/
def SettingProblem.message : SettingProblem → String
  | form problem => problem.message
  | noArguments => "expected attribute arguments in parentheses: #[schema(...)]"
  | noParentheses => "expected parentheses: #[schema(...)]"
  | unknownFlag => "unknown schema flag. Expected: skip, nested, or list"
  | unknownAssignment => "unknown attribute. Expected: rename"
  | unfitName => "rename must be a non-empty string literal"
  | unknownList => "unknown schema attribute. Expected: skip, nested, list, or rename = \"...\""

/-- How a field enters the schema. -/
structure FieldSettings where
  /-- The field is left out. -/
  skip : Bool := false
  /-- The field is a record, or a collection of records. -/
  nested : Bool := false
  /-- The field is a collection. -/
  list : Bool := false
  /-- The name of the field in filters, if it is not the name in the declaration. -/
  rename : Option String := none
deriving DecidableEq, Repr

namespace FieldSettings

/-- The settings with one more entry. -/
def addEntry (settings : FieldSettings) : Entry → Except SettingProblem FieldSettings
  | .flag path =>
    if path.isWord "skip" then .ok { settings with skip := true }
    else if path.isWord "nested" then .ok { settings with nested := true }
    else if path.isWord "list" then .ok { settings with list := true }
    else .error .unknownFlag
  | .assigned path value =>
    if path.isWord "rename" then
      match value with
      | some name => if name = "" then .error .unfitName else .ok { settings with rename := name }
      | none => .error .unfitName
    else .error .unknownAssignment
  | .list _ _ => .error .unknownList

/-- The settings with more entries, in order. -/
def addEntries (settings : FieldSettings) : List Entry → Except SettingProblem FieldSettings
  | [] => .ok settings
  | entry :: entries => (settings.addEntry entry).bind (addEntries · entries)

/-- The settings that the entries of one attribute make. -/
def ofEntries (entries : List Entry) : Except SettingProblem FieldSettings := addEntries {} entries

/-- Settings together with later ones: flags stay set, and the later name is the one that counts. -/
def merge (settings later : FieldSettings) : FieldSettings where
  skip := settings.skip || later.skip
  nested := settings.nested || later.nested
  list := settings.list || later.list
  rename := later.rename.or settings.rename

/-- The settings with one more attribute; one with another path than `schema` changes nothing. -/
def addAttribute (settings : FieldSettings) (whole : Entry) :
    Except SettingProblem FieldSettings :=
  if whole.path.isWord "schema" then
    match whole with
    | .flag _ => .error .noArguments
    | .assigned _ _ => .error .noParentheses
    | .list _ arguments =>
      match entriesOf arguments with
      | .error problem => .error (.form problem)
      | .ok entries => (ofEntries entries).map settings.merge
  else .ok settings

/-- The settings with more attributes, in order. -/
def addAttributes (settings : FieldSettings) : List Entry → Except SettingProblem FieldSettings
  | [] => .ok settings
  | whole :: attributes => (settings.addAttribute whole).bind (addAttributes · attributes)

/-- The settings that the attributes of a field make. -/
def ofAttributes (attributes : List Entry) : Except SettingProblem FieldSettings :=
  addAttributes {} attributes

/-- Entries are added one after the other. -/
theorem addEntries_append (settings : FieldSettings) (entries more : List Entry) :
    settings.addEntries (entries ++ more) =
      (settings.addEntries entries).bind (addEntries · more) := by
  induction entries generalizing settings with
  | nil => rfl
  | cons entry entries ih =>
    simp only [List.cons_append, addEntries]
    cases settings.addEntry entry with
    | error problem => rfl
    | ok settings => exact ih settings

/-! ## Merged settings. -/

@[simp] theorem merge_empty (settings : FieldSettings) : settings.merge {} = settings := by
  simp [merge]

@[simp] theorem empty_merge (settings : FieldSettings) : merge {} settings = settings := by
  simp [merge]

theorem merge_assoc (settings later last : FieldSettings) :
    (settings.merge later).merge last = settings.merge (later.merge last) := by
  simp [merge, Bool.or_assoc, Option.or_assoc]

/-- An entry makes the same of settings as of what they are merged with. -/
theorem addEntry_merge (settings later : FieldSettings) (entry : Entry) :
    (settings.merge later).addEntry entry = (later.addEntry entry).map settings.merge := by
  cases entry with
  | flag path =>
    simp only [addEntry]
    split
    · simp [merge, Except.map]
    · split
      · simp [merge, Except.map]
      · split
        · simp [merge, Except.map]
        · rfl
  | assigned path value =>
    simp only [addEntry]
    split
    · cases value with
      | none => rfl
      | some name =>
        simp only
        split
        · rfl
        · simp [merge, Except.map]
    · rfl
  | list path arguments => rfl

/-- Entries make the same of settings as of what they are merged with. -/
theorem addEntries_merge (settings later : FieldSettings) (entries : List Entry) :
    (settings.merge later).addEntries entries = (later.addEntries entries).map settings.merge := by
  induction entries generalizing later with
  | nil => rfl
  | cons entry entries ih =>
    simp only [addEntries, addEntry_merge]
    cases later.addEntry entry with
    | error problem => rfl
    | ok later => exact ih later

/-- It does not matter whether entries are added to settings, or make settings of their own that are
merged with them. -/
theorem addEntries_eq_merge (settings : FieldSettings) (entries : List Entry) :
    settings.addEntries entries = (ofEntries entries).map settings.merge := by
  rw [ofEntries, ← addEntries_merge, merge_empty]

end FieldSettings

end FilterQuery.Declaration
