import FilterQuery.Declaration.Outline

/-!
# Names that make constants

The derivation of a schema makes a constant for every field it describes. The name of a field in
filters makes the name of a constant exactly if it is spelled like an identifier, in which hyphens and
dots may stand for bars. Any other name stops the derivation, although attributes may give it: nothing
is derived and nothing is reported. Raw identifiers are such names, too.

## Key results

- `hasConstant_iff`: which names make constants
- `spellsConstant_of_isIdentifier`, `not_spellsConstant_raw`: plain identifiers do, raw ones do not
- `TypeDeclaration.outline_stops_iff`: where a derivation stops without a problem that is reported
-/

namespace FilterQuery.Declaration

open Text (isIdentifier isIdentifierStart isIdentifierContinue isUppercase)

/-! ## Characters. -/

/-- A small letter of ASCII is exchanged for its capital, and any other character is kept. -/
theorem toUpper_eq_or (c : Char) :
    c.toUpper = c ∨ (97 ≤ c.toNat ∧ c.toNat ≤ 122) ∧ c.toUpper.toNat + 32 = c.toNat := by
  unfold Char.toUpper
  split
  · rename_i h
    have hcode : 97 ≤ c.val.toNat ∧ c.val.toNat ≤ 122 := h
    have hshift : ('A'.val - 'a'.val).toNat = 4294967264 := by decide
    refine .inr ⟨hcode, ?_⟩
    change (c.val + ('A'.val - 'a'.val)).toNat + 32 = c.val.toNat
    rw [UInt32.toNat_add, hshift]
    omega
  · exact .inl rfl

/-- The letters of ASCII may stand anywhere in an identifier. -/
theorem isIdentifierStart_of_code {c : Char}
    (h : 65 ≤ c.toNat ∧ c.toNat ≤ 90 ∨ 97 ≤ c.toNat ∧ c.toNat ≤ 122) :
    isIdentifierStart c = true ∧ isIdentifierContinue c = true := by
  have halpha : c.isAlpha = true := by
    rcases h with h | h
    · exact Bool.or_eq_true_iff.2 (.inl (decide_eq_true h))
    · exact Bool.or_eq_true_iff.2
        (.inr (Bool.and_eq_true_iff.2 ⟨decide_eq_true h.1, decide_eq_true h.2⟩))
  have hascii : c.toNat < 128 := by omega
  simp only [isIdentifierStart, isIdentifierContinue, Char.isAlphanum, hascii, halpha, if_true,
    Bool.true_or, Bool.or_true, and_self]

theorem isIdentifierStart_toUpper (c : Char) :
    isIdentifierStart c.toUpper = isIdentifierStart c := by
  rcases toUpper_eq_or c with h | ⟨hcode, hupper⟩
  · rw [h]
  · rw [(isIdentifierStart_of_code (.inr hcode)).1,
      (isIdentifierStart_of_code (.inl (by omega))).1]

theorem isIdentifierContinue_toUpper (c : Char) :
    isIdentifierContinue c.toUpper = isIdentifierContinue c := by
  rcases toUpper_eq_or c with h | ⟨hcode, hupper⟩
  · rw [h]
  · rw [(isIdentifierStart_of_code (.inr hcode)).2,
      (isIdentifierStart_of_code (.inl (by omega))).2]

/-! ## Names. -/

/-- Whether a character may begin a name that a constant is made for: it begins an identifier, or
stands for a bar. -/
def MayBegin (c : Char) : Prop := isIdentifierStart c = true ∨ c = '-' ∨ c = '.'

/-- Whether a character may stand in such a name behind the first one. -/
def MayContinue (c : Char) : Prop := isIdentifierContinue c = true ∨ c = '-' ∨ c = '.'

/-- Whether a text is spelled like an identifier, in which hyphens and dots may stand for bars. -/
def SpellsConstant : List Char → Prop
  | [] => False
  | c :: rest => MayBegin c ∧ ∀ d ∈ rest, MayContinue d

/-- What a character makes in the name of a constant. -/
def constantChar (c : Char) : Char :=
  if isUppercase c then c else if c == '_' || c == '-' || c == '.' then '_' else c.toUpper

/-- Hyphens and dots make bars, and any other character makes itself or its capital. -/
theorem constantChar_cases (c : Char) :
    (c = '-' ∨ c = '.') ∧ constantChar c = '_' ∨
      (c ≠ '-' ∧ c ≠ '.') ∧ (constantChar c = c ∨ constantChar c = c.toUpper) := by
  by_cases hbar : c = '-' ∨ c = '.'
  · refine .inl ⟨hbar, ?_⟩
    rcases hbar with rfl | rfl <;> decide
  · refine .inr ⟨not_or.1 hbar, ?_⟩
    unfold constantChar
    split
    · exact .inl rfl
    · split
      · rename_i h
        obtain rfl : c = '_' := by simpa [not_or.1 hbar] using h
        exact .inl rfl
      · exact .inr rfl

theorem isIdentifierStart_constantChar {c : Char} :
    isIdentifierStart (constantChar c) = true ↔ MayBegin c := by
  rcases constantChar_cases c with ⟨hbar, h⟩ | ⟨hplain, h | h⟩
  · rw [h]
    exact iff_of_true (by decide) (.inr hbar)
  · simp [MayBegin, h, hplain]
  · simp [MayBegin, h, hplain, isIdentifierStart_toUpper]

theorem isIdentifierContinue_constantChar {c : Char} :
    isIdentifierContinue (constantChar c) = true ↔ MayContinue c := by
  rcases constantChar_cases c with ⟨hbar, h⟩ | ⟨hplain, h | h⟩
  · rw [h]
    exact iff_of_true (by decide) (.inr hbar)
  · simp [MayContinue, h, hplain]
  · simp [MayContinue, h, hplain, isIdentifierContinue_toUpper]

/-- Every character makes one character of the constant, with a bar in front of it if it is a capital
behind a word. -/
theorem exists_constantChars_cons (inWord : Bool) (c : Char) (rest : List Char) :
    ∃ bars inWord', constantChars inWord (c :: rest) =
        bars ++ constantChar c :: constantChars inWord' rest ∧
      (∀ b ∈ bars, b = '_') ∧ (inWord = false → bars = []) := by
  unfold constantChar
  rw [constantChars]
  split
  · cases inWord with
    | true => exact ⟨['_'], false, rfl, by simp, by simp⟩
    | false => exact ⟨[], false, rfl, by simp, fun _ => rfl⟩
  · split
    · exact ⟨[], false, rfl, by simp, fun _ => rfl⟩
    · exact ⟨[], true, rfl, by simp, fun _ => rfl⟩

/-- Bars go on in an identifier, so all of a constant does if what it is made of may. -/
theorem all_constantChars_iff (inWord : Bool) (cs : List Char) :
    (constantChars inWord cs).all isIdentifierContinue = true ↔ ∀ c ∈ cs, MayContinue c := by
  induction cs generalizing inWord with
  | nil => simp [constantChars]
  | cons c rest ih =>
    obtain ⟨bars, inWord', heq, hbars, -⟩ := exists_constantChars_cons inWord c rest
    have hall : bars.all isIdentifierContinue = true :=
      List.all_eq_true.2 fun b hb => by
        rw [hbars b hb]
        decide
    rw [heq, List.all_append, hall, List.all_cons, Bool.true_and, Bool.and_eq_true,
      isIdentifierContinue_constantChar, ih, List.forall_mem_cons]

/-- A name has a constant exactly if it is spelled like one. -/
theorem hasConstant_iff {name : String} :
    hasConstant name = true ↔ SpellsConstant name.toList := by
  rw [hasConstant, constantName, String.toList_ofList]
  cases name.toList with
  | nil => simp [constantChars, isIdentifier, SpellsConstant]
  | cons c rest =>
    -- No bar stands in front of the first character, which has to begin an identifier.
    obtain ⟨bars, inWord', heq, -, hbars⟩ := exists_constantChars_cons false c rest
    rw [heq, hbars rfl, List.nil_append, isIdentifier, Bool.and_eq_true,
      isIdentifierStart_constantChar, all_constantChars_iff, SpellsConstant]

theorem spellsConstant_of_isIdentifier {cs : List Char} (h : isIdentifier cs = true) :
    SpellsConstant cs := by
  cases cs with
  | nil => cases h
  | cons c rest =>
    obtain ⟨hstart, hrest⟩ := Bool.and_eq_true_iff.1 h
    exact ⟨.inl hstart, fun d hd => .inl (List.all_eq_true.1 hrest d hd)⟩

/-- The mark of a raw identifier does not go on in an identifier. -/
theorem not_spellsConstant_raw (word : List Char) : ¬ SpellsConstant ('r' :: '#' :: word) := by
  rintro ⟨-, hrest⟩
  have hmark : ¬ MayContinue '#' := by
    rintro (h | h | h)
    · exact absurd h (by decide)
    · exact absurd h (by decide)
    · exact absurd h (by decide)
  exact hmark (hrest '#' List.mem_cons_self)

/-! ## Fields. -/

namespace FieldDeclaration

/-- Whether the attributes of the field are accepted, and the schema describes it under the name. -/
def IsDescribedAs (field : FieldDeclaration) (name : String) : Prop :=
  ∃ settings, FieldSettings.ofAttributes field.attributes = .ok settings ∧ settings.skip = false ∧
    settings.rename.getD field.name = name

/-- A field is described under one name at most. -/
theorem IsDescribedAs.unique {field : FieldDeclaration} {name name' : String}
    (h : field.IsDescribedAs name) (h' : field.IsDescribedAs name') : name = name' := by
  obtain ⟨settings, hsettings, -, hname⟩ := h
  obtain ⟨settings', hsettings', -, hname'⟩ := h'
  obtain rfl : settings = settings' := Except.ok.inj (hsettings.symm.trans hsettings')
  exact hname.symm.trans hname'

/-- Whether the attributes of the field are accepted, and the name under which the schema describes
it, if it does, makes a constant. -/
structure IsSound (field : FieldDeclaration) : Prop where
  accepted : ∃ settings, FieldSettings.ofAttributes field.attributes = .ok settings
  spells : ∀ name, field.IsDescribedAs name → SpellsConstant name.toList

/-- What comes of a field: its attributes are refused, it is outlined or skipped, or the name that the
schema is to describe it under makes no constant. -/
theorem outline?_cases (field : FieldDeclaration) :
    (∃ problem, field.outline? = .error (.settings problem) ∧
        FieldSettings.ofAttributes field.attributes = .error problem) ∨
      (∃ outline, field.outline? = .ok outline ∧ field.IsSound) ∨
      ∃ name, field.outline? = .error (.noConstant name) ∧ field.IsDescribedAs name ∧
        ¬ SpellsConstant name.toList := by
  cases h : FieldSettings.ofAttributes field.attributes with
  | error problem => exact .inl ⟨problem, by simp only [outline?, h], rfl⟩
  | ok settings =>
    refine .inr ?_
    cases hskip : settings.skip with
    | true =>
      refine .inl ⟨none, by simp only [outline?, h, hskip, if_true], ⟨settings, h⟩, ?_⟩
      rintro name ⟨settings', h', hskip', -⟩
      obtain rfl : settings = settings' := Except.ok.inj (h.symm.trans h')
      rw [hskip] at hskip'
      cases hskip'
    | false =>
      have hdescribed : field.IsDescribedAs (settings.rename.getD field.name) :=
        ⟨settings, h, hskip, rfl⟩
      by_cases hspells : SpellsConstant (settings.rename.getD field.name).toList
      · have hrun : ∃ outline, field.outline? = .ok outline := by
          simp [outline?, h, hskip, hasConstant_iff.2 hspells]
        obtain ⟨outline, hrun⟩ := hrun
        exact .inl ⟨outline, hrun, ⟨settings, h⟩, fun name hname =>
          hname.unique hdescribed ▸ hspells⟩
      · refine .inr ⟨_, ?_, hdescribed, hspells⟩
        simp only [outline?, h, hskip, Bool.false_eq_true, if_false, mt hasConstant_iff.1 hspells]

/-- A field is outlined or skipped exactly if it is sound. -/
theorem exists_outline?_iff {field : FieldDeclaration} :
    (∃ outline, field.outline? = .ok outline) ↔ field.IsSound := by
  rcases field.outline?_cases with ⟨problem, hrun, hrefused⟩ | ⟨outline, hrun, hsound⟩ |
    ⟨name, hrun, hname, hspells⟩
  · refine iff_of_false (by simp [hrun]) fun hsound => ?_
    obtain ⟨settings, haccepted⟩ := hsound.accepted
    rw [hrefused] at haccepted
    cases haccepted
  · exact iff_of_true ⟨outline, hrun⟩ hsound
  · exact iff_of_false (by simp [hrun]) fun hsound => hspells (hsound.spells name hname)

/-- A field stops the derivation exactly if the schema is to describe it under a name that makes no
constant. -/
theorem outline?_eq_noConstant_iff {field : FieldDeclaration} {name : String} :
    field.outline? = .error (.noConstant name) ↔
      field.IsDescribedAs name ∧ ¬ SpellsConstant name.toList := by
  rcases field.outline?_cases with ⟨problem, hrun, hrefused⟩ | ⟨outline, hrun, hsound⟩ |
    ⟨name', hrun, hname', hspells'⟩
  · refine iff_of_false (by simp [hrun]) ?_
    rintro ⟨⟨settings, haccepted, -⟩, -⟩
    rw [hrefused] at haccepted
    cases haccepted
  · exact iff_of_false (by simp [hrun]) fun ⟨hname, hspells⟩ => hspells (hsound.spells name hname)
  · rw [hrun, Except.error.injEq, DeclarationProblem.noConstant.injEq]
    constructor
    · rintro rfl
      exact ⟨hname', hspells'⟩
    · rintro ⟨hname, -⟩
      exact hname'.unique hname

end FieldDeclaration

/-! ## Records. -/

/-- Fields are outlined together if each of them is. -/
theorem exists_outlineFields_iff {fields : List FieldDeclaration} :
    (∃ outlines, outlineFields fields = .ok outlines) ↔
      ∀ field ∈ fields, ∃ outline, field.outline? = .ok outline := by
  induction fields with
  | nil => exact iff_of_true ⟨[], rfl⟩ fun _ h => absurd h List.not_mem_nil
  | cons field fields ih =>
    rw [List.forall_mem_cons, ← ih, outlineFields]
    cases field.outline? with
    | error problem => simp
    | ok outline => cases outlineFields fields <;> simp [Except.map]

/-- A problem of fields is that of the first one that is not outlined. -/
theorem outlineFields_eq_error_iff {fields : List FieldDeclaration} {problem : DeclarationProblem} :
    outlineFields fields = .error problem ↔
      ∃ front field back, fields = front ++ field :: back ∧
        (∀ earlier ∈ front, ∃ outline, earlier.outline? = .ok outline) ∧
        field.outline? = .error problem := by
  induction fields with
  | nil => simp [outlineFields]
  | cons field fields ih =>
    rw [outlineFields]
    constructor
    · intro h
      -- The problem is that of the first field, or else it comes from behind it.
      cases hfield : field.outline? with
      | error problem' =>
        rw [hfield] at h
        obtain rfl := Except.error.inj h
        exact ⟨[], field, fields, rfl, fun _ h => absurd h List.not_mem_nil, hfield⟩
      | ok outline =>
        have hfields : outlineFields fields = .error problem := by
          rw [hfield] at h
          cases hfields : outlineFields fields with
          | error problem' =>
            rw [hfields] at h
            exact congrArg _ (Except.error.inj h)
          | ok outlines =>
            rw [hfields] at h
            cases h
        obtain ⟨front, stop, back, rfl, hfront, hstop⟩ := ih.1 hfields
        exact ⟨field :: front, stop, back, rfl, List.forall_mem_cons.2 ⟨⟨outline, hfield⟩, hfront⟩,
          hstop⟩
    · rintro ⟨front, stop, back, heq, hfront, hstop⟩
      cases front with
      | nil =>
        obtain ⟨rfl, rfl⟩ := List.cons.inj heq
        rw [hstop]
      | cons first front =>
        obtain ⟨rfl, rfl⟩ := List.cons.inj heq
        obtain ⟨⟨outline, hfirst⟩, hfront⟩ := List.forall_mem_cons.1 hfront
        rw [hfirst, ih.2 ⟨front, stop, back, rfl, hfront, hstop⟩]
        rfl

/-- A schema is derived for a record exactly if every field is sound, and the derivation stops without
a report exactly at a field whose name makes no constant, if the fields in front of it are sound. -/
theorem TypeDeclaration.outline_stops_iff (fields : List FieldDeclaration) :
    ((∃ outlines, (record fields).outline = .ok outlines) ↔ ∀ field ∈ fields, field.IsSound) ∧
      ∀ name, (record fields).outline = .error (.noConstant name) ↔
        ∃ front field back, fields = front ++ field :: back ∧
          (∀ earlier ∈ front, earlier.IsSound) ∧
          field.IsDescribedAs name ∧ ¬ SpellsConstant name.toList := by
  simp only [← FieldDeclaration.exists_outline?_iff, ← FieldDeclaration.outline?_eq_noConstant_iff]
  exact ⟨exists_outlineFields_iff, fun name => outlineFields_eq_error_iff⟩

/-- The derivation stops at a raw identifier, and nothing is reported. -/
theorem outlineOf_rawIdentifier :
    outlineOf "struct Person \x7b r#type: String \x7d" = .error (.noConstant "r#type") ∧
      (DeclarationProblem.noConstant "r#type").message? = none := by
  decide +kernel

end FilterQuery.Declaration
