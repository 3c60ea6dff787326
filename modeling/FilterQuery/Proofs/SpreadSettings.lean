import FilterQuery.Proofs.ConstantNames
import FilterQuery.Proofs.WrittenSettings
import Mathlib.Data.List.Forall2

/-!
# Settings spread over attributes

The settings of a field may stand in one attribute, or in any number of them, among attributes that
are none of ours. The settings of each attribute are made on their own and merged, and what comes of
it is what comes of all the settings in order: a flag is set if it occurs anywhere, and the last name
is the one that counts. So two declarations with the same settings have the same schema.

## Key results

- `FieldSettings.ofAttributes_of_spreads`: attributes make the settings that are spread over them
- `Declares.outline?_eq`: what comes of a field follows from its settings alone
- `TypeDeclaration.outline_of_declares`: the schema of a record follows from the settings of its
  fields
-/

namespace FilterQuery.Declaration

/-! ## Attributes. -/

/-- Whether attributes have the settings, in order, among the arguments of those with the path
`schema`. -/
inductive Spreads : List Entry → List Setting → Prop
  | nil : Spreads [] []
  | schema {arguments : List Tree} {settings more : List Setting} {attributes : List Entry}
      (h : Listed Setting.trees settings arguments) (hmore : Spreads attributes more) :
      Spreads (.list (.ofWord "schema") arguments :: attributes) (settings ++ more)
  | other {whole : Entry} {settings : List Setting} {attributes : List Entry}
      (h : whole.path.isWord "schema" = false) (hmore : Spreads attributes settings) :
      Spreads (whole :: attributes) settings

namespace FieldSettings

/-- It does not matter how settings are spread over attributes: the entries of each make settings of
their own, but it comes to the same as adding all of them one after the other. -/
theorem addAttributes_of_spreads {attributes : List Entry} {settings : List Setting}
    (h : Spreads attributes settings) (fieldSettings : FieldSettings) :
    fieldSettings.addAttributes attributes =
      fieldSettings.addEntries (settings.map Setting.entry) := by
  induction h generalizing fieldSettings with
  | nil => rfl
  | @schema arguments settings more attributes h hmore ih =>
    have hpath : (Entry.list (.ofWord "schema") arguments).path.isWord "schema" = true := rfl
    -- The two ways to combine, within an attribute and between attributes, come to the same.
    have hadd : fieldSettings.addAttribute (.list (.ofWord "schema") arguments) =
        fieldSettings.addEntries (settings.map Setting.entry) := by
      simp only [addAttribute, hpath, if_true, entriesOf_of_listed h, addEntries_eq_merge]
    rw [addAttributes, hadd, List.map_append, addEntries_append, funext ih]
  | @other whole settings attributes h hmore ih =>
    have hadd : fieldSettings.addAttribute whole = .ok fieldSettings := by
      simp only [addAttribute, h, Bool.false_eq_true, if_false]
    rw [addAttributes, hadd]
    exact ih fieldSettings

end FieldSettings

/-! ## Settings together. -/

/-- The name that a setting gives. -/
def Setting.name? : Setting → Option String
  | rename name _ => some name
  | _ => none

namespace FieldSettings

/-- What settings come to: the flags that occur, and the last name. -/
def ofSettings (settings : List Setting) : FieldSettings where
  skip := decide (.skip ∈ settings)
  nested := decide (.nested ∈ settings)
  list := decide (.list ∈ settings)
  rename := (settings.filterMap Setting.name?).getLast?

theorem merge_ofSettings (settings more : List Setting) :
    (ofSettings settings).merge (ofSettings more) = ofSettings (settings ++ more) := by
  simp [merge, ofSettings]

theorem addEntry_entry (fieldSettings : FieldSettings) (setting : Setting) :
    fieldSettings.addEntry setting.entry = .ok (fieldSettings.merge (ofSettings [setting])) := by
  cases setting with
  | rename name named =>
    simp [Setting.entry, addEntry, merge, ofSettings, Setting.name?, Path.isWord, named]
  | _ =>
    simp [Setting.entry, addEntry, merge, ofSettings, Setting.name?, Path.isWord, Path.ofWord]

/-- Settings are added as they come to. -/
theorem addEntries_entries (fieldSettings : FieldSettings) (settings : List Setting) :
    fieldSettings.addEntries (settings.map Setting.entry) =
      .ok (fieldSettings.merge (ofSettings settings)) := by
  induction settings generalizing fieldSettings with
  | nil => exact congrArg Except.ok (merge_empty fieldSettings).symm
  | cons setting settings ih =>
    rw [List.map_cons, addEntries, addEntry_entry, Except.bind, ih, merge_assoc, merge_ofSettings]
    rfl

/-- Attributes make the settings that are spread over them. -/
theorem ofAttributes_of_spreads {attributes : List Entry} {settings : List Setting}
    (h : Spreads attributes settings) : ofAttributes attributes = .ok (ofSettings settings) := by
  rw [ofAttributes, addAttributes_of_spreads h, addEntries_entries, empty_merge]

end FieldSettings

/-! ## Fields. -/

/-- What the declaration of a field says, wherever its settings stand. -/
structure FieldSketch where
  name : String
  /-- Whether the type of the field is a type of optional values. -/
  optional : Bool
  settings : List Setting

/-- Whether a declaration of a field says what the sketch does. -/
structure Declares (field : FieldDeclaration) (sketch : FieldSketch) : Prop where
  name_eq : field.name = sketch.name
  optional_eq : field.optional = sketch.optional
  spreads : Spreads field.attributes sketch.settings

namespace FieldSketch

/-- The name of the field in filters: the last one that it is given, or else its own. -/
def filterName (sketch : FieldSketch) : String :=
  (sketch.settings.filterMap Setting.name?).getLast?.getD sketch.name

/-- How the field enters the schema, if it does. -/
def outline? (sketch : FieldSketch) : Option FieldOutline :=
  if .skip ∈ sketch.settings then none
  else some {
    name := sketch.filterName
    field := sketch.name
    isList := decide (.list ∈ sketch.settings)
    isRecord := decide (.nested ∈ sketch.settings)
    optional := sketch.optional }

end FieldSketch

/-- A field is outlined as its settings say, if its name in filters has a constant. -/
theorem Declares.outline?_eq {field : FieldDeclaration} {sketch : FieldSketch}
    (h : Declares field sketch) :
    field.outline? =
      match sketch.outline? with
      | none => .ok none
      | some outline =>
        if hasConstant outline.name then .ok (some outline)
        else .error (.noConstant outline.name) := by
  obtain ⟨hname, hoptional, hspreads⟩ := h
  simp only [FieldDeclaration.outline?, FieldSettings.ofAttributes_of_spreads hspreads,
    FieldSettings.ofSettings, hname, hoptional, FieldSketch.outline?, FieldSketch.filterName]
  by_cases hskip : .skip ∈ sketch.settings
  · simp only [hskip, decide_true, if_true]
  · simp only [hskip, decide_false, Bool.false_eq_true, if_false]

/-! ## Records. -/

/-- Fields are outlined as their settings say, up to the first one whose name in filters has no
constant. -/
theorem outlineFields_of_declares {fields : List FieldDeclaration} {sketches : List FieldSketch}
    (h : List.Forall₂ Declares fields sketches) :
    outlineFields fields =
      match (sketches.filterMap FieldSketch.outline?).find? fun outline =>
        !hasConstant outline.name with
      | none => .ok (sketches.filterMap FieldSketch.outline?)
      | some outline => .error (.noConstant outline.name) := by
  induction h with
  | nil => rfl
  | @cons field sketch fields sketches hfield hfields ih =>
    rw [outlineFields, hfield.outline?_eq, ih, List.filterMap_cons]
    cases hsketch : sketch.outline? with
    | none =>
      simp only [Option.toList_none, List.nil_append]
      split <;> rfl
    | some outline =>
      cases hconstant : hasConstant outline.name with
      | false => simp [hconstant]
      | true =>
        simp only [hconstant, if_true, List.find?_cons, Bool.not_true, Option.toList_some,
          List.singleton_append]
        cases (sketches.filterMap FieldSketch.outline?).find? fun outline =>
          !hasConstant outline.name <;> rfl

/-- Two records whose fields say the same have the same schema: one description for each field that
is not skipped, in order, as its settings say. Nothing else than a name without constant stops the
derivation. -/
theorem TypeDeclaration.outline_of_declares {fields fields' : List FieldDeclaration}
    {sketches : List FieldSketch} (h : List.Forall₂ Declares fields sketches)
    (h' : List.Forall₂ Declares fields' sketches) :
    (record fields).outline = (record fields').outline ∧
      ((record fields).outline = .ok (sketches.filterMap FieldSketch.outline?) ↔
        ∀ outline ∈ sketches.filterMap FieldSketch.outline?, SpellsConstant outline.name.toList) ∧
      ∀ problem, (record fields).outline = .error problem →
        ∃ outline ∈ sketches.filterMap FieldSketch.outline?, problem = .noConstant outline.name := by
  have hsame : outlineFields fields = outlineFields fields' := by
    rw [outlineFields_of_declares h, outlineFields_of_declares h']
  refine ⟨hsame, ?_⟩
  -- Either every name has a constant, or the first one without stops the derivation.
  simp only [outline, outlineFields_of_declares h, ← hasConstant_iff]
  cases hfind : (sketches.filterMap FieldSketch.outline?).find? fun outline =>
      !hasConstant outline.name with
  | none =>
    refine ⟨iff_of_true rfl fun outline hmem => ?_, ?_⟩
    · simpa using List.find?_eq_none.1 hfind outline hmem
    · rintro problem ⟨⟩
  | some stop =>
    have hmem := List.mem_of_find?_eq_some hfind
    have hnone : hasConstant stop.name = false := by simpa using List.find?_some hfind
    refine ⟨iff_of_false (by simp) fun hall => ?_, ?_⟩
    · rw [hall stop hmem] at hnone
      cases hnone
    · rintro problem ⟨⟩
      exact ⟨stop, hmem, rfl⟩

/-- A name for pets. -/
def kids : Setting := .rename "kids" (by decide)

/-- Pets, with all their settings in one attribute. -/
def petsTogether : FieldDeclaration where
  name := "pets"
  optional := true
  attributes := [.list (.ofWord "schema") (Setting.list.trees ++ .leaf (.sign ',' false) ::
    (Setting.nested.trees ++ .leaf (.sign ',' false) :: kids.trees))]

/-- Pets, with the same settings in three attributes, one of them empty, and another attribute among
them. -/
def petsApart : FieldDeclaration where
  name := "pets"
  optional := true
  attributes := [.list (.ofWord "schema") Setting.list.trees, .flag (.ofWord "deprecated"),
    .list (.ofWord "schema") [], .list (.ofWord "schema") (Setting.nested.trees ++
      .leaf (.sign ',' false) :: (kids.trees ++ [.leaf (.sign ',' false)]))]

/-- A list of pets that may be missing, with another name in filters. -/
def petsSketch : FieldSketch where
  name := "pets"
  optional := true
  settings := [.list, .nested, kids]

theorem outline_of_declares_pets :
    Declares petsApart petsSketch ∧ Declares petsTogether petsSketch ∧
      (TypeDeclaration.record [petsApart]).outline = (TypeDeclaration.record [petsTogether]).outline ∧
      (TypeDeclaration.record [petsApart]).outline = .ok [⟨"kids", "pets", true, true, true⟩] := by
  have htogether : Declares petsTogether petsSketch :=
    ⟨rfl, rfl, .schema (.cons Setting.list false (.cons Setting.nested false (.last kids))) .nil⟩
  have hapart : Declares petsApart petsSketch :=
    ⟨rfl, rfl, .schema (.last Setting.list) (.other (by decide) (.schema .nil
      (.schema (.cons Setting.nested false (.cons kids false .nil)) .nil)))⟩
  obtain ⟨hsame, houtline, -⟩ :=
    TypeDeclaration.outline_of_declares (.cons hapart .nil) (.cons htogether .nil)
  have hsketch : [petsSketch].filterMap FieldSketch.outline? =
      [⟨"kids", "pets", true, true, true⟩] := by decide
  rw [hsketch] at houtline
  refine ⟨hapart, htogether, hsame, houtline.2 fun outline hmem => ?_⟩
  obtain rfl := List.mem_singleton.1 hmem
  exact hasConstant_iff.1 (by decide)

/-- Where settings are spread over attributes, too, a raw identifier has no constant, and the
derivation stops. -/
theorem outlineOf_rawIdentifier_spread :
    outlineOf "struct Shelter \x7b #[schema(list)] #[schema(nested)] r#type: Vec<Pet> \x7d" =
      .error (.noConstant "r#type") := by
  decide +kernel

end FilterQuery.Declaration
