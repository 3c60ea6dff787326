import FilterQuery.Access.Mapper
import Mathlib.Data.List.Induction
import Mathlib.Data.List.Nodup

/-!
# The fields of a mapper after changes

A mapper is an ordered map: names with the same key are one field, which keeps its place when it is
added again. Whatever changes a mapper has gone through, a name stands for the field that was put
under its key last, if nothing took it away since.

## Key results

- `add_eq`: adding a field by its key instead of by a place in the list
- `addMissing_eq`, `mem_missing`: of the fields of a schema those are added, in order, that come
  first with a key that is not taken
- `isOrderedMap_of_nodup`: what each change does to a mapper whose fields have different keys
- `find?_after`: what a name stands for after one more change
- `ofHistory_isOrderedMap`: any course of changes leads to such a mapper, in which names stand for
  what was put under their key last
-/

namespace FilterQuery.Mapper

variable {ι : Type}

/-! ## Changes of a mapper. -/

/-- A change of the fields of a mapper. -/
inductive Change (ι : Type) : Type 1 where
  /-- Adds a field with one accessor, or with one for each key of an index. -/
  | add (map : FieldMap ι)
  /-- Adds a field with several accessors. -/
  | addComposite (name : String) (accessors : List (Accessor ι))
      (convertor : Option (String → Option Value))
  | remove (name : String)
  | clear
  | autoPopulate {τ : Type} (schema : Schema τ ι) (type : τ) (depth : Nat)

/-- The field that a change is to add under its own name, unless that cannot be made. -/
def Change.field? : Change ι → Option (FieldMap ι)
  | .add map => some map
  | .addComposite name (first :: rest) convertor =>
    some { name, mapping := .composite first rest, convertor }
  | _ => none

/-- The mapper with a change, or the reason why the change is refused. -/
def apply (m : Mapper ι) : Change ι → Except FilterError (Mapper ι)
  | .add map => m.add map
  | .addComposite name accessors convertor => do
    let map ← FieldMap.composite name accessors
    m.add { map with convertor }
  | .remove name => .ok (m.remove name)
  | .clear => .ok m.clear
  | .autoPopulate schema type depth => .ok (m.autoPopulate schema type depth)

/-- The mapper after a change; one that is refused leaves it as it is. -/
def after (m : Mapper ι) (change : Change ι) : Mapper ι :=
  match m.apply change with
  | .ok changed => changed
  | .error _ => m

/-- The mapper after a course of changes. -/
def afterAll (m : Mapper ι) (history : List (Change ι)) : Mapper ι := history.foldl after m

/-- The mapper that a course of changes makes of one without fields. -/
def ofHistory (config : MapperConfig) (operators : OperatorRegistry) (history : List (Change ι)) :
    Mapper ι :=
  afterAll { config, operators } history

/-! ## A mapper as an ordered map. -/

/-- The keys of the fields, in order. -/
def keys (m : Mapper ι) : List (List Char) := m.maps.map fun map => m.config.nameKey map.name

/-- The fields with one more: in the place of the field with its key, or else at the end. -/
def put (m : Mapper ι) (map : FieldMap ι) : List (FieldMap ι) :=
  if m.hasField map.name then m.maps.map fun old => if m.isNamed map.name old then map else old
  else m.maps ++ [map]

/-- The fields with the given names and accessors. -/
def singles (fields : List (String × Accessor ι)) : List (FieldMap ι) :=
  fields.map fun (name, accessor) => { name, mapping := .single accessor }

/-- Those of the fields whose keys are not taken, the first one of each key. -/
def missing (m : Mapper ι) (fields : List (String × Accessor ι)) : List (FieldMap ι) :=
  ((singles fields).filter fun map => !m.hasField map.name).eraseDupsBy fun map earlier =>
    m.config.nameKey map.name == m.config.nameKey earlier.name

/-- Whether a mapper refuses a change, with the given error. -/
def Refuses (m : Mapper ι) (change : Change ι) (error : FilterError) : Prop :=
  (∃ name convertor, change = .addComposite name [] convertor ∧ error = .emptyComposite name) ∨
  ∃ map, change.field? = some map ∧ m.config.rejectDuplicateKeys = true ∧
    m.hasField map.name = true ∧ error = .duplicateField map.name

/-- The fields, in order, with a change that is not refused. -/
def arranged (m : Mapper ι) : Change ι → List (FieldMap ι)
  | .remove name => m.maps.filter fun map => !m.isNamed name map
  | .clear => []
  | .autoPopulate schema type depth => m.maps ++ m.missing (schema.expand depth type)
  | change => (change.field?.map m.put).getD m.maps

/-- What makes a mapper an ordered map from keys to fields. -/
structure IsOrderedMap (m : Mapper ι) : Prop where
  /-- No two fields have the same key. -/
  distinct : m.keys.Nodup
  /-- A name stands for the one field with its key. -/
  only : ∀ name, m.maps.filter (m.isNamed name) = (m.find? name).toList
  /-- A field is there if its name stands for one. -/
  present : ∀ name, m.hasField name = (m.find? name).isSome
  /-- Removing a name takes away the field with its key, and no other. -/
  removed : ∀ name, (m.remove name).maps = m.maps.filter fun map => !m.isNamed name map
  /-- Changes are refused only if a field cannot be made or must not be replaced. -/
  refused : ∀ change error, m.apply change = .error error ↔ m.Refuses change error
  /-- What is refused changes nothing. -/
  unchanged : ∀ change error, m.apply change = .error error → m.after change = m
  /-- What is not refused puts fields in their places and leaves the others in theirs. -/
  changed : ∀ change changed, m.apply change = .ok changed →
    changed = { m with maps := m.arranged change }

/-- The field that a change, unless it is refused, puts under the key of a name. -/
def puts? (m : Mapper ι) (name : String) (change : Change ι) : Option (FieldMap ι) :=
  match m.apply change with
  | .error _ => none
  | .ok _ =>
    match change with
    | .autoPopulate schema type depth =>
      if m.hasField name then none
      else (singles (schema.expand depth type)).find? (m.isNamed name)
    | change => change.field?.filter (m.isNamed name)

/-- Whether a change takes away what is under the key of a name. -/
def Takes (m : Mapper ι) (name : String) : Change ι → Prop
  | .remove other => m.config.nameKey other = m.config.nameKey name
  | .clear => True
  | _ => False

/-- Whether a field is what a course of changes put last under the key of a name, and did not take
away since. -/
def PutsLast (m : Mapper ι) (history : List (Change ι)) (name : String) (map : FieldMap ι) : Prop :=
  ∃ earlier change later, history = earlier ++ change :: later ∧
    (m.afterAll earlier).puts? name change = some map ∧
    ∀ between next rest, later = between ++ next :: rest →
      (m.afterAll (earlier ++ change :: between)).puts? name next = none ∧ ¬m.Takes name next

variable {m : Mapper ι} {name : String} {map : FieldMap ι}

/-! ## Fields by their keys. -/

theorem isNamed_iff :
    m.isNamed name map = true ↔ m.config.nameKey map.name = m.config.nameKey name := by
  simp [isNamed]

/-- Names with the same key name the same fields. -/
theorem isNamed_congr {other : String} (h : m.config.nameKey name = m.config.nameKey other) :
    m.isNamed name = m.isNamed other := by
  funext map
  simp [isNamed, h]

theorem hasField_iff : m.hasField name = true ↔ ∃ map ∈ m.maps, m.isNamed name map = true :=
  List.any_eq_true

theorem hasField_of_isNamed (h : m.isNamed name map = true) :
    m.hasField map.name = m.hasField name := by
  rw [hasField, hasField, isNamed_congr (isNamed_iff.1 h)]

/-- With different keys, two fields that have the key of one name are the same. -/
theorem eq_of_isNamed (h : m.keys.Nodup) {old : FieldMap ι} (hmap : map ∈ m.maps)
    (hold : old ∈ m.maps) (hnamed : m.isNamed name map = true)
    (holdNamed : m.isNamed name old = true) : map = old :=
  List.inj_on_of_nodup_map h hmap hold
    ((isNamed_iff.1 hnamed).trans (isNamed_iff.1 holdNamed).symm)

/-- With different keys, a name stands for any field that has its key. -/
theorem find?_eq_some_iff (h : m.keys.Nodup) :
    m.find? name = some map ↔ map ∈ m.maps ∧ m.isNamed name map = true := by
  constructor
  · intro hfind
    exact ⟨List.mem_of_find?_eq_some hfind, List.find?_some hfind⟩
  · rintro ⟨hmap, hnamed⟩
    obtain ⟨old, hold⟩ : ∃ old, m.find? name = some old :=
      Option.isSome_iff_exists.1 (List.find?_isSome.2 ⟨map, hmap, hnamed⟩)
    rw [hold, eq_of_isNamed h (List.mem_of_find?_eq_some hold) hmap (List.find?_some hold) hnamed]

/-! ## Adding one field. -/

/-- The place of a field in the list is found by its key, so that replacing the field in its place
is replacing the field with its key. -/
theorem set_eq_map (h : m.keys.Nodup) {i : Nat}
    (hi : m.maps.findIdx? (m.isNamed map.name) = some i) :
    m.maps.set i map = m.maps.map fun old => if m.isNamed map.name old then map else old := by
  obtain ⟨hlt, hnamed, -⟩ := List.findIdx?_eq_some_iff_getElem.1 hi
  refine List.ext_getElem (by simp) fun j hj hj' => ?_
  rw [List.length_set] at hj
  rw [List.getElem_set, List.getElem_map]
  by_cases hij : i = j
  · subst hij
    simp [hnamed]
  · -- Another place holds another field, which has another key.
    have hother : m.isNamed map.name m.maps[j] = false := by
      rw [Bool.eq_false_iff]
      intro hsame
      have hi : i < m.keys.length := by simpa [keys] using hlt
      have hj : j < m.keys.length := by simpa [keys] using hj
      have hkeys : m.keys[i] = m.keys[j] := by
        simpa [keys] using (isNamed_iff.1 hnamed).trans (isNamed_iff.1 hsame).symm
      exact hij ((List.Nodup.getElem_inj_iff h).1 hkeys)
    simp [hij, hother]

/-- Adding a field puts it under its key, unless there is one and must not be replaced. -/
theorem add_eq (h : m.keys.Nodup) (map : FieldMap ι) :
    m.add map =
      if m.config.rejectDuplicateKeys && m.hasField map.name then .error (.duplicateField map.name)
      else .ok { m with maps := m.put map } := by
  unfold add put
  cases hfind : m.maps.findIdx? (m.isNamed map.name) with
  | none =>
    have hnot : m.hasField map.name = false := by
      rw [hasField, List.any_eq_false]
      exact fun old hold => by simp [List.findIdx?_eq_none_iff.1 hfind old hold]
    simp [hnot]
  | some i =>
    have hthere : m.hasField map.name = true := by
      obtain ⟨hlt, hnamed, -⟩ := List.findIdx?_eq_some_iff_getElem.1 hfind
      exact hasField_iff.2 ⟨_, List.getElem_mem hlt, hnamed⟩
    simp [hthere, set_eq_map h hfind]

theorem nodup_keys_put (h : m.keys.Nodup) (map : FieldMap ι) :
    ({ m with maps := m.put map } : Mapper ι).keys.Nodup := by
  unfold put
  split
  · -- What replaces a field has its key.
    have hsame : ∀ old : FieldMap ι,
        m.config.nameKey (if m.isNamed map.name old then map else old).name =
          m.config.nameKey old.name := by
      intro old
      split
      · exact (isNamed_iff.1 ‹_›).symm
      · rfl
    simpa [keys, Function.comp_def, hsame] using h
  · rename_i hthere
    have hnew : m.config.nameKey map.name ∉ m.keys := by
      intro hmem
      obtain ⟨old, hold, hkey⟩ := List.mem_map.1 hmem
      exact hthere (hasField_iff.2 ⟨old, hold, isNamed_iff.2 hkey⟩)
    simpa [keys] using h.concat hnew

/-- With one more field, the fields are that one and those that have another key. -/
theorem mem_put {old : FieldMap ι} :
    old ∈ m.put map ↔ old = map ∨ old ∈ m.maps ∧ m.isNamed map.name old = false := by
  unfold put
  split
  · rename_i hthere
    rw [List.mem_map]
    constructor
    · rintro ⟨old', hold, rfl⟩
      split
      · exact .inl rfl
      · exact .inr ⟨hold, Bool.eq_false_iff.2 ‹_›⟩
    · rintro (rfl | ⟨hold, hnamed⟩)
      · obtain ⟨replaced, hreplaced, hnamed⟩ := hasField_iff.1 hthere
        exact ⟨replaced, hreplaced, if_pos hnamed⟩
      · exact ⟨old, hold, by simp [hnamed]⟩
  · rename_i hthere
    rw [List.mem_append, List.mem_singleton, or_comm]
    refine or_congr_right (iff_self_and.2 fun hold => ?_)
    rw [Bool.eq_false_iff]
    exact fun hnamed => hthere (hasField_iff.2 ⟨old, hold, hnamed⟩)

/-! ## Adding the fields of a schema. -/

/-- Of several elements with one key, the first one is left. -/
theorem mem_eraseDupsBy_iff {α κ : Type} [BEq κ] [LawfulBEq κ] (key : α → κ) {x : α}
    (as : List α) :
    x ∈ as.eraseDupsBy (fun a b => key a == key b) ↔ as.find? (key · == key x) = some x := by
  -- Behind the first element only those of another key count, so the induction is on their number.
  induction hn : as.length using Nat.strongRecOn generalizing as with
  | ind n ih =>
    cases as with
    | nil => simp
    | cons a as =>
      have hfewer := List.length_filter_le (fun b => decide ((key b == key a) = false)) as
      rw [List.length_cons] at hn
      rw [List.eraseDupsBy_cons, List.mem_cons, ih _ (by omega) _ rfl, List.find?_filter]
      by_cases hkey : key a = key x
      · rw [List.find?_cons_of_pos (by simpa using hkey), Option.some_inj, eq_comm, or_iff_left]
        intro hfind
        have hother := List.find?_some hfind
        simp [hkey] at hother
      · rw [List.find?_cons_of_neg (by simpa using hkey),
          or_iff_right fun h : x = a => hkey (h ▸ rfl)]
        have hsame : (fun b => decide (decide ((key b == key a) = false) = true ∧
            (key b == key x) = true)) = (key · == key x) := by
          funext b
          by_cases hb : key b = key x
          · simp [hb, Ne.symm hkey]
          · simp [hb]
        rw [hsame]

/-- The fields that a schema adds stand behind those that are there. -/
theorem addMissing_eq (m : Mapper ι) (fields : List (String × Accessor ι)) :
    m.addMissing fields = { m with maps := m.maps ++ m.missing fields } := by
  induction fields generalizing m with
  | nil => simp [addMissing, missing, singles]
  | cons field fields ih =>
    obtain ⟨name, accessor⟩ := field
    change (if m.hasField name then m else _ : Mapper ι).addMissing fields = _
    split
    · rename_i hthere
      rw [ih]
      simp [missing, singles, hthere]
    · rename_i hthere
      rw [ih]
      -- Later fields must have another key than this one too.
      have hlater : ∀ map : FieldMap ι,
          (!({ m with maps := m.maps ++ [{ name, mapping := .single accessor }] } :
            Mapper ι).hasField map.name) =
            (decide ((m.config.nameKey map.name == m.config.nameKey name) = false) &&
              !m.hasField map.name) := by
        intro map
        change (!(m.maps ++ [_]).any (m.isNamed map.name)) = _
        rw [List.any_append, List.any_cons, List.any_nil, ← hasField, isNamed, BEq.comm]
        cases m.hasField map.name <;> cases m.config.nameKey map.name == m.config.nameKey name <;>
          rfl
      unfold missing singles
      simp only [hlater, List.map_cons]
      rw [List.filter_cons_of_pos (by simpa using hthere), List.eraseDupsBy_cons,
        List.filter_filter, List.append_assoc, List.singleton_append]

theorem nodup_keys_addMissing (h : m.keys.Nodup) (fields : List (String × Accessor ι)) :
    (m.addMissing fields).keys.Nodup := by
  induction fields generalizing m with
  | nil => exact h
  | cons field fields ih =>
    change ((if m.hasField field.1 then m else _ : Mapper ι).addMissing fields).keys.Nodup
    split
    · exact ih h
    · rename_i hthere
      refine ih ?_
      -- A field whose key is not taken is put at the end.
      have hput := nodup_keys_put h { name := field.1, mapping := .single field.2 }
      rwa [put, if_neg hthere] at hput

/-- Of the fields of a schema those are added that come first with a key that is not taken. -/
theorem mem_missing {fields : List (String × Accessor ι)} :
    map ∈ m.missing fields ↔
      m.hasField map.name = false ∧ (singles fields).find? (m.isNamed map.name) = some map := by
  -- Fields with the key of this one are there iff this one is.
  have hsame : ∀ old : FieldMap ι,
      decide ((!m.hasField old.name) = true ∧ m.isNamed map.name old = true) =
        (!m.hasField map.name && m.isNamed map.name old) := by
    intro old
    cases hnamed : m.isNamed map.name old with
    | false => simp
    | true => simp [hasField_of_isNamed hnamed]
  unfold missing
  rw [mem_eraseDupsBy_iff (fun map : FieldMap ι => m.config.nameKey map.name), List.find?_filter]
  change (singles fields).find? (fun old => decide ((!m.hasField old.name) = true ∧
    m.isNamed map.name old = true)) = some map ↔ _
  simp only [hsame]
  cases m.hasField map.name with
  | true => simp [List.find?_eq_none.2]
  | false => simp

/-- A name whose key is not taken comes to stand for the first field with its key. -/
theorem mem_missing_and_isNamed {fields : List (String × Accessor ι)} :
    map ∈ m.missing fields ∧ m.isNamed name map = true ↔
      m.hasField name = false ∧ (singles fields).find? (m.isNamed name) = some map := by
  rw [mem_missing]
  constructor
  · rintro ⟨⟨hnew, hfind⟩, hnamed⟩
    rw [isNamed_congr (isNamed_iff.1 hnamed)] at hfind
    exact ⟨hasField_of_isNamed hnamed ▸ hnew, hfind⟩
  · rintro ⟨hnew, hfind⟩
    have hnamed := List.find?_some hfind
    rw [hasField_of_isNamed hnamed, isNamed_congr (isNamed_iff.1 hnamed)]
    exact ⟨⟨hnew, hfind⟩, hnamed⟩

/-! ## What a change does. -/

/-- At most one field has the key of a name. -/
theorem pairwise_not_isNamed (h : m.keys.Nodup) (name : String) :
    m.maps.Pairwise fun a b => m.isNamed name a = true → m.isNamed name b = false := by
  refine (List.pairwise_map.1 h).imp fun hne ha => ?_
  rw [Bool.eq_false_iff]
  exact fun hb => hne ((isNamed_iff.1 ha).trans (isNamed_iff.1 hb).symm)

theorem filter_isNamed (h : m.keys.Nodup) (name : String) :
    m.maps.filter (m.isNamed name) = (m.find? name).toList := by
  have hmaps := pairwise_not_isNamed h name
  unfold find?
  generalize m.maps = maps at hmaps ⊢
  induction hmaps with
  | nil => rfl
  | @cons map maps hothers _ ih =>
    cases hnamed : m.isNamed name map with
    | true =>
      rw [List.filter_cons_of_pos hnamed, List.find?_cons_of_pos hnamed]
      simpa using fun other hother => hothers other hother hnamed
    | false =>
      rw [List.filter_cons_of_neg (by simp [hnamed]), List.find?_cons_of_neg (by simp [hnamed]), ih]

theorem maps_remove (h : m.keys.Nodup) (name : String) :
    (m.remove name).maps = m.maps.filter fun map => !m.isNamed name map := by
  have hmaps := pairwise_not_isNamed h name
  change m.maps.eraseP (m.isNamed name) = _
  generalize m.maps = maps at hmaps ⊢
  induction hmaps with
  | nil => rfl
  | @cons map maps hothers _ ih =>
    cases hnamed : m.isNamed name map with
    | true =>
      rw [List.eraseP_cons_of_pos hnamed, List.filter_cons_of_neg (by simp [hnamed])]
      exact (List.filter_eq_self.2 fun other hother => by simp [hothers other hother hnamed]).symm
    | false =>
      rw [List.eraseP_cons_of_neg (by simp [hnamed]),
        List.filter_cons_of_pos (by simp [hnamed]), ih]

theorem apply_of_field? {change : Change ι} (h : change.field? = some map) :
    m.apply change = m.add map := by
  cases change with
  | add own => cases h; rfl
  | addComposite name accessors convertor =>
    cases accessors with
    | nil => cases h
    | cons first rest => cases h; rfl
  | _ => cases h

/-- Where a field is to be added, the only reason to refuse it is that it replaces another. -/
theorem refuses_iff_of_field? {change : Change ι} (h : change.field? = some map)
    {error : FilterError} :
    m.Refuses change error ↔ m.config.rejectDuplicateKeys = true ∧ m.hasField map.name = true ∧
      error = .duplicateField map.name := by
  constructor
  · rintro (⟨name, convertor, rfl, -⟩ | ⟨other, hother, hrefused⟩)
    · cases h
    · cases h.symm.trans hother
      exact hrefused
  · exact fun hrefused => .inr ⟨map, h, hrefused⟩

theorem refuses_unique {change : Change ι} {error error' : FilterError}
    (h : m.Refuses change error) (h' : m.Refuses change error') : error = error' := by
  rcases h with ⟨name, convertor, rfl, rfl⟩ | ⟨map, hmap, hrefused⟩
  · rcases h' with ⟨name', convertor', heq, rfl⟩ | ⟨map, hmap, -⟩
    · cases heq
      rfl
    · cases hmap
  · exact hrefused.2.2.trans ((refuses_iff_of_field? hmap).1 h').2.2.symm

theorem arranged_of_field? {change : Change ι} (h : change.field? = some map) :
    m.arranged change = m.put map := by
  cases change with
  | add own => cases h; rfl
  | addComposite name accessors convertor =>
    cases accessors with
    | nil => cases h
    | cons first rest => cases h; rfl
  | _ => cases h

/-- A change is refused for a reason, or there is none and it puts all fields in their places. -/
theorem apply_cases (h : m.keys.Nodup) (change : Change ι) :
    (∃ error, m.apply change = .error error ∧ m.Refuses change error) ∨
    m.apply change = .ok { m with maps := m.arranged change } ∧
      ∀ error, ¬m.Refuses change error := by
  cases hfield : change.field? with
  | some map =>
    simp only [apply_of_field? hfield, refuses_iff_of_field? hfield, arranged_of_field? hfield,
      add_eq h, Bool.and_eq_true]
    by_cases hrefused : m.config.rejectDuplicateKeys = true ∧ m.hasField map.name = true
    · exact .inl ⟨_, if_pos hrefused, hrefused.1, hrefused.2, rfl⟩
    · exact .inr ⟨if_neg hrefused, fun error herror => hrefused ⟨herror.1, herror.2.1⟩⟩
  | none =>
    have hfree : (∀ name convertor, change ≠ .addComposite name [] convertor) →
        ∀ error, ¬m.Refuses change error := by
      rintro hcomposite error (⟨name, convertor, heq, -⟩ | ⟨map, hmap, -⟩)
      · exact hcomposite name convertor heq
      · rw [hfield] at hmap
        cases hmap
    cases change with
    | add map => cases hfield
    | addComposite name accessors convertor =>
      cases accessors with
      | nil => exact .inl ⟨_, rfl, .inl ⟨name, convertor, rfl, rfl⟩⟩
      | cons first rest => cases hfield
    | remove name =>
      refine .inr ⟨?_, hfree nofun⟩
      rw [apply, arranged, ← maps_remove h]
      rfl
    | clear => exact .inr ⟨rfl, hfree nofun⟩
    -- Fields of a schema give way to those that are there, so that nothing can be refused.
    | autoPopulate schema type depth =>
      refine .inr ⟨?_, hfree nofun⟩
      rw [apply, arranged, autoPopulate, addMissing_eq]

/-- A mapper whose fields have different keys is an ordered map. -/
theorem isOrderedMap_of_nodup (h : m.keys.Nodup) : m.IsOrderedMap where
  distinct := h
  only := filter_isNamed h
  present := m.hasField_eq_isSome_find?
  removed := maps_remove h
  refused change error := by
    rcases apply_cases h change with ⟨reason, happly, hrefuses⟩ | ⟨happly, hfree⟩
    · rw [happly, Except.error.injEq]
      refine ⟨fun heq => heq ▸ hrefuses, fun hother => ?_⟩
      exact refuses_unique hrefuses hother
    · rw [happly]
      exact ⟨nofun, fun hrefuses => absurd hrefuses (hfree error)⟩
  unchanged change error herror := by rw [after, herror]
  changed change changed hchanged := by
    rcases apply_cases h change with ⟨error, happly, -⟩ | ⟨happly, -⟩
    · cases happly.symm.trans hchanged
    · exact (Except.ok.inj (happly.symm.trans hchanged)).symm

theorem nodup_keys_arranged (h : m.keys.Nodup) (change : Change ι) :
    ({ m with maps := m.arranged change } : Mapper ι).keys.Nodup := by
  cases hfield : change.field? with
  | some map =>
    rw [arranged_of_field? hfield]
    exact nodup_keys_put h map
  | none =>
    cases change with
    | add map => cases hfield
    | addComposite name accessors convertor =>
      rw [arranged, hfield]
      · exact h
      all_goals exact nofun
    | remove name => exact h.sublist (List.filter_sublist.map _)
    | clear => exact List.nodup_nil
    | autoPopulate schema type depth =>
      rw [arranged, ← addMissing_eq]
      exact nodup_keys_addMissing h _

theorem nodup_keys_after (h : m.keys.Nodup) (change : Change ι) : (m.after change).keys.Nodup := by
  unfold after
  rcases apply_cases h change with ⟨error, happly, -⟩ | ⟨happly, -⟩
  · rwa [happly]
  · rw [happly]
    exact nodup_keys_arranged h change

theorem config_after (h : m.keys.Nodup) (change : Change ι) :
    (m.after change).config = m.config := by
  unfold after
  rcases apply_cases h change with ⟨error, happly, -⟩ | ⟨happly, -⟩ <;> rw [happly]

/-- What a field that is added does to the fields under the key of a name. -/
theorem mem_put_and_isNamed {new : FieldMap ι} :
    map ∈ m.put new ∧ m.isNamed name map = true ↔
      (some new).filter (m.isNamed name) = some map ∨
        (some new).filter (m.isNamed name) = none ∧ map ∈ m.maps ∧ m.isNamed name map = true := by
  rw [mem_put, Option.filter_some]
  cases hnew : m.isNamed name new with
  | true =>
    -- Fields with the key of the name have that of the new field.
    have hsame := isNamed_congr (isNamed_iff.1 hnew)
    simp only [hsame, if_true, Option.some.injEq, reduceCtorEq, false_and, or_false]
    constructor
    · rintro ⟨rfl | ⟨-, hother⟩, hnamed⟩
      · rfl
      · simp [hnamed] at hother
    · rintro rfl
      exact ⟨.inl rfl, hnew⟩
  | false =>
    simp only [Bool.false_eq_true, if_false, reduceCtorEq, true_and, false_or]
    constructor
    · rintro ⟨rfl | ⟨hmap, -⟩, hnamed⟩
      · simp [hnew] at hnamed
      · exact ⟨hmap, hnamed⟩
    · rintro ⟨hmap, hnamed⟩
      refine ⟨.inr ⟨hmap, ?_⟩, hnamed⟩
      rw [Bool.eq_false_iff]
      intro hsame
      have hkey := (isNamed_iff.1 hsame).symm.trans (isNamed_iff.1 hnamed)
      simp [isNamed_iff.2 hkey] at hnew

/-- After a change a name stands for what the change puts under its key, or else for what it stood
for before, unless that is taken away. -/
theorem find?_after (h : m.keys.Nodup) (change : Change ι) :
    (m.after change).find? name = some map ↔ m.puts? name change = some map ∨
      m.puts? name change = none ∧ ¬m.Takes name change ∧ m.find? name = some map := by
  rcases apply_cases h change with ⟨error, happly, -⟩ | ⟨happly, -⟩
  -- A change that is refused puts nothing and takes nothing away.
  · have hkeeps : ¬m.Takes name change := by
      cases change with
      | remove other => cases happly
      | clear => cases happly
      | _ => exact id
    simp [after, puts?, happly, hkeeps]
  · have hafter : m.after change = { m with maps := m.arranged change } := by rw [after, happly]
    rw [hafter, find?_eq_some_iff (nodup_keys_arranged h change), find?_eq_some_iff h]
    change map ∈ m.arranged change ∧ m.isNamed name map = true ↔ _
    cases hfield : change.field? with
    | some new =>
      have hputs : m.puts? name change = (some new).filter (m.isNamed name) := by
        cases change with
        | add _ | addComposite _ _ _ => simp only [puts?, happly, hfield]
        | _ => cases hfield
      have hkeeps : ¬m.Takes name change := by
        cases change with
        | add _ | addComposite _ _ _ => exact id
        | _ => cases hfield
      rw [arranged_of_field? hfield, hputs, mem_put_and_isNamed]
      simp only [hkeeps, not_false_iff, true_and]
    | none =>
      cases change with
      | add map => cases hfield
      | addComposite name accessors convertor =>
        cases accessors with
        | nil => cases happly
        | cons first rest => cases hfield
      | remove other =>
        have hputs : m.puts? name (.remove other) = none := rfl
        rw [arranged, List.mem_filter, hputs]
        simp only [reduceCtorEq, true_and, false_or]
        rw [and_right_comm, and_comm]
        refine and_congr_left fun hmap => ?_
        rw [Bool.not_eq_true', Bool.eq_false_iff, ne_eq, isNamed_iff, isNamed_iff.1 hmap.2, Takes,
          eq_comm]
      | clear =>
        have hputs : m.puts? name .clear = none := rfl
        rw [hputs]
        simp [arranged, Takes]
      | autoPopulate schema type depth =>
        have hputs : m.puts? name (.autoPopulate schema type depth) =
          if m.hasField name then none
          else (singles (schema.expand depth type)).find? (m.isNamed name) := rfl
        have hkeeps : ¬m.Takes name (.autoPopulate schema type depth) := id
        rw [arranged, List.mem_append, or_and_right, mem_missing_and_isNamed, hputs]
        cases hthere : m.hasField name with
        | true => simp [hkeeps]
        | false =>
          have hnone : ¬(map ∈ m.maps ∧ m.isNamed name map = true) := fun hmap => by
            simp [hasField_iff.2 ⟨map, hmap⟩] at hthere
          simp [hnone]

/-! ## Courses of changes. -/

theorem afterAll_concat (m : Mapper ι) (history : List (Change ι)) (change : Change ι) :
    m.afterAll (history ++ [change]) = (m.afterAll history).after change := by
  simp [afterAll]

theorem nodup_keys_afterAll (h : m.keys.Nodup) (history : List (Change ι)) :
    (m.afterAll history).keys.Nodup := by
  induction history generalizing m with
  | nil => exact h
  | cons change history ih => exact ih (nodup_keys_after h change)

theorem config_afterAll (h : m.keys.Nodup) (history : List (Change ι)) :
    (m.afterAll history).config = m.config := by
  induction history generalizing m with
  | nil => rfl
  | cons change history ih => exact (ih (nodup_keys_after h change)).trans (config_after h change)

/-- A place in a list with one more element at the end is that end, or a place in the list. -/
theorem concat_eq_append_cons_iff {α : Type*} {as l r : List α} {a b : α} :
    as ++ [a] = l ++ b :: r ↔
      as = l ∧ a = b ∧ r = [] ∨ ∃ rest, r = rest ++ [a] ∧ as = l ++ b :: rest := by
  constructor
  · intro h
    rcases List.eq_nil_or_concat' r with rfl | ⟨rest, last, rfl⟩
    · obtain ⟨rfl, heq⟩ := List.append_inj' h rfl
      cases heq
      exact .inl ⟨rfl, rfl, rfl⟩
    · rw [← List.cons_append, ← List.append_assoc] at h
      obtain ⟨rfl, heq⟩ := List.append_inj' h rfl
      cases heq
      exact .inr ⟨rest, rfl, rfl⟩
  · rintro (⟨rfl, rfl, rfl⟩ | ⟨rest, rfl, rfl⟩)
    · rfl
    · simp

/-- What was put last after one more change is what that one puts, or else what was put last before,
unless that is taken away. -/
theorem putsLast_concat {history : List (Change ι)} {change : Change ι} :
    m.PutsLast (history ++ [change]) name map ↔
      (m.afterAll history).puts? name change = some map ∨
      (m.afterAll history).puts? name change = none ∧ ¬m.Takes name change ∧
        m.PutsLast history name map := by
  constructor
  · rintro ⟨earlier, first, later, hsplit, hputs, hkept⟩
    rcases concat_eq_append_cons_iff.1 hsplit with ⟨rfl, rfl, rfl⟩ | ⟨later, rfl, rfl⟩
    · exact .inl hputs
    · obtain ⟨hnone, hstays⟩ := hkept later change [] rfl
      refine .inr ⟨hnone, hstays, earlier, first, later, rfl, hputs, ?_⟩
      intro between next rest hlater
      exact hkept between next (rest ++ [change]) (by simp [hlater])
  · rintro (hputs | ⟨hnone, hstays, earlier, first, later, rfl, hputs, hkept⟩)
    · exact ⟨history, change, [], rfl, hputs, fun between next rest hlater => by simp at hlater⟩
    · refine ⟨earlier, first, later ++ [change], by simp, hputs, fun between next rest hlater => ?_⟩
      rcases concat_eq_append_cons_iff.1 hlater with ⟨rfl, rfl, rfl⟩ | ⟨rest, rfl, rfl⟩
      · exact ⟨hnone, hstays⟩
      · exact hkept between next rest rfl

/-- In a mapper that begins without fields, a name stands for what was put last under its key. -/
theorem find?_afterAll (hempty : m.maps = []) (history : List (Change ι)) :
    (m.afterAll history).find? name = some map ↔ m.PutsLast history name map := by
  have h : m.keys.Nodup := by simp [keys, hempty]
  induction history using List.reverseRecOn with
  | nil => simp [afterAll, find?, hempty, PutsLast]
  | append_singleton history change ih =>
    have htakes : (m.afterAll history).Takes name change ↔ m.Takes name change := by
      cases change with
      | remove other => simp only [Takes, config_afterAll h]
      | _ => rfl
    rw [afterAll_concat, find?_after (nodup_keys_afterAll h history), putsLast_concat, htakes]
    exact or_congr_right (and_congr_right' (and_congr_right' ih))

/-- Any course of changes makes an ordered map of a mapper without fields, and in it a name stands
for the field that was put under its key last and was not taken away since. -/
theorem ofHistory_isOrderedMap (config : MapperConfig) (operators : OperatorRegistry)
    (history : List (Change ι)) :
    (ofHistory config operators history).IsOrderedMap ∧
      ∀ name map, (ofHistory config operators history).find? name = some map ↔
      ({ config, operators } : Mapper ι).PutsLast history name map :=
  have hempty : ({ config, operators } : Mapper ι).keys.Nodup := List.nodup_nil
  ⟨isOrderedMap_of_nodup (nodup_keys_afterAll hempty history),
    fun _ _ => find?_afterAll rfl history⟩

-- A field that is added again, in other letters, keeps its place.
example :
    let field (name : String) : Change Unit :=
      .add { name, mapping := .single (.computed .string true fun _ => .absent) }
    (ofHistory {} .empty [field "a", field "b", .addComposite "b" [] none, field "A"]).fields =
      ["A", "b"] :=
  rfl

end FilterQuery.Mapper
