import FilterQuery.Operators
import FilterQuery.Proofs.ScanPrinted
import Mathlib.Data.List.DropRight
import Mathlib.Data.List.Induction

/-!
# The operators of a registry after changes

The first operator that is registered under a name stays there until the name is removed. So what
is found under a name depends only on the changes since it was removed last, whatever else the
registry has gone through. Names that are prefixes of each other do not get in each other's way in
a filter: a name is read up to the first character that cannot belong to one.

## Key results

- `register_cases`: what registering an operator comes to
- `find?_after`: what is found under a name after one more change
- `scan_operator`: a name of the registry is read as its operator
- `ofHistory_follows`: any course of changes leads to a registry that tells what came of it
-/

namespace FilterQuery.OperatorRegistry

/-! ## Changes of a registry. -/

/-- A change of the operators of a registry. -/
inductive Change where
  | register (op : CustomOperator)
  | remove (name : String)

/-- Whether a change takes away what is found under a name. -/
def Change.removes (name : String) : Change → Bool
  | .register _ => false
  | .remove other => other == name

/-- The operator that a change brings under a name, if that is valid. -/
def Change.operator? (name : String) : Change → Option CustomOperator
  | .register op => if op.name = name ∧ isOperatorName name = true then some op else none
  | .remove _ => none

/-- The registry after a change; an operator that is not added leaves it as it is. -/
def after (r : OperatorRegistry) : Change → OperatorRegistry
  | .register op =>
    match r.register op with
    | .added changed => changed
    | .known | .badName => r
  | .remove name => r.remove name

/-- The registry that a course of changes makes of one without operators. -/
def ofHistory (history : List Change) : OperatorRegistry := history.foldl after empty

/-- The part of a course of changes that comes after the last removal of a name. -/
def since (name : String) (history : List Change) : List Change :=
  history.rtakeWhile fun change => !change.removes name

/-- Whether an operator was registered under a name that is valid, and not removed afterwards. -/
def IsRegistered (name : String) (history : List Change) : Prop :=
  ∃ earlier op later, history = earlier ++ .register op :: later ∧ op.name = name ∧
    isOperatorName name = true ∧ ∀ change ∈ later, change.removes name = false

/-- A registry holds what a course of changes has left of the operators that it brought. -/
structure Follows (r : OperatorRegistry) (history : List Change) : Prop where
  ascending : r.names.Pairwise (· < ·)
  listed : ∀ name, name ∈ r.names ↔ IsRegistered name history
  /-- A name is a `#` and at least one field character. -/
  named : ∀ name ∈ r.names, ∃ c cs, name.toList = '#' :: c :: cs ∧
    ∀ d ∈ c :: cs, isFieldChar d = true
  /-- What is found is the first operator since the last removal. -/
  found : ∀ name, r.find? name = (since name history).findSome? (·.operator? name)
  /-- Valid names that are not there are added. -/
  added : ∀ op, (∃ changed, r.register op = .added changed) ↔
    isOperatorName op.name = true ∧ op.name ∉ r.names
  /-- Names that are there are known. -/
  known : ∀ op, r.register op = .known ↔ op.name ∈ r.names
  /-- Names that are not valid are refused. -/
  refused : ∀ op, r.register op = .badName ↔ isOperatorName op.name = false
  /-- An operator that is not added changes nothing. -/
  kept : ∀ op, (∀ changed, r.register op ≠ .added changed) → r.after (.register op) = r
  /-- Behind a field and in front of what cannot belong to a name, a name is read as its operator,
  and as no other. -/
  reached : ∀ name ∈ r.names, ∀ c, isFieldChar c = false → ∀ rest, ∃ tokens,
    (scan r.names (String.ofList ('f' :: name.toList ++ c :: rest))).1 =
      ⟨.field, 0, "f"⟩ :: ⟨.operator (.custom name), 1, name⟩ :: tokens ∧
    (rest = [] → ∀ token ∈ tokens, ∀ op, token.kind ≠ .operator op)

variable {r : OperatorRegistry} {op : CustomOperator} {name : String}

/-! ## Names of operators. -/

theorem isOperatorName_iff : isOperatorName name = true ↔
    ∃ c cs, name.toList = '#' :: c :: cs ∧ ∀ d ∈ c :: cs, isFieldChar d = true := by
  constructor
  · intro h
    obtain ⟨cs, hcs, hfield⟩ := exists_of_isOperatorName h
    cases cs with
    | nil => simp [isOperatorName, hcs] at h
    | cons c cs => exact ⟨c, cs, hcs, hfield⟩
  · rintro ⟨c, cs, hcs, hfield⟩
    simpa [isOperatorName, hcs] using hfield

theorem mem_names_iff : name ∈ r.names ↔ r.contains name = true := by
  simp [names, contains, find?, List.find?_isSome]

/-! ## One change. -/

/-- An operator is refused, or known already, or inserted. -/
theorem register_cases (r : OperatorRegistry) (op : CustomOperator) :
    isOperatorName op.name = false ∧ r.register op = .badName ∨
      isOperatorName op.name = true ∧ op.name ∈ r.names ∧ r.register op = .known ∨
      ∃ hname hnew, op.name ∉ r.names ∧ r.register op = .added (r.insert op hname hnew) := by
  rw [mem_names_iff]
  unfold register
  split
  · rename_i hname
    split
    · rename_i hnew
      exact .inr (.inr ⟨hname, hnew, by simp [hnew], rfl⟩)
    · rename_i hknown
      exact .inr (.inl ⟨hname, by simpa using hknown, rfl⟩)
  · rename_i hname
    exact .inl ⟨by simpa using hname, rfl⟩

theorem exists_register_eq_added_iff : (∃ changed, r.register op = .added changed) ↔
    isOperatorName op.name = true ∧ op.name ∉ r.names := by
  rcases register_cases r op with ⟨hbad, h⟩ | ⟨-, hmem, h⟩ | ⟨hname, _, hmem, h⟩
  · simp [h, hbad]
  · simp [h, hmem]
  · simp [h, hname, hmem]

theorem register_eq_known_iff : r.register op = .known ↔ op.name ∈ r.names := by
  rcases register_cases r op with ⟨hbad, h⟩ | ⟨-, hmem, h⟩ | ⟨_, _, hmem, h⟩
  · have hmem : op.name ∉ r.names := fun hmem => by
      simp [r.isOperatorName_of_mem_names hmem] at hbad
    simp [h, hmem]
  · simp [h, hmem]
  · simp [h, hmem]

theorem register_eq_badName_iff : r.register op = .badName ↔ isOperatorName op.name = false := by
  rcases register_cases r op with ⟨hbad, h⟩ | ⟨hname, -, h⟩ | ⟨hname, _, -, h⟩
  · simp [h, hbad]
  · simp [h, hname]
  · simp [h, hname]

theorem after_register_of_not_added (hop : ∀ changed, r.register op ≠ .added changed) :
    r.after (.register op) = r := by
  rcases register_cases r op with ⟨-, h⟩ | ⟨-, -, h⟩ | ⟨_, _, -, h⟩
  · simp [after, h]
  · simp [after, h]
  · exact absurd h (hop _)

/-- After a change the operator that was found before is still there, or else one that the change
brings, unless it is one that removes the name. -/
theorem find?_after (r : OperatorRegistry) (change : Change) (name : String) :
    (r.after change).find? name =
      if change.removes name then none else (r.find? name).or (change.operator? name) := by
  cases change with
  | register op =>
    rw [if_neg (by simp [Change.removes]), Change.operator?]
    rcases register_cases r op with ⟨hbad, h⟩ | ⟨-, hmem, h⟩ | ⟨hname, hnew, -, h⟩
    · rw [after_register_of_not_added (by simp [h]), if_neg, Option.or_none]
      rintro ⟨rfl, hname⟩
      simp [hname] at hbad
    · rw [after_register_of_not_added (by simp [h])]
      by_cases heq : op.name = name
      · subst heq
        obtain ⟨old, hold⟩ := Option.isSome_iff_exists.1 (mem_names_iff.1 hmem)
        rw [hold, Option.some_or]
      · rw [if_neg (by simp [heq]), Option.or_none]
    · have hafter : r.after (.register op) = r.insert op hname hnew := by simp [after, h]
      rw [hafter]
      by_cases heq : op.name = name
      · subst heq
        have hnone : r.find? op.name = none := by simpa [contains] using hnew
        rw [find?_insert_self, if_pos ⟨rfl, hname⟩, hnone, Option.none_or]
      · rw [find?_insert_of_ne r op hname hnew heq, if_neg (by simp [heq]), Option.or_none]
  | remove other =>
    rw [after, find?_remove, Change.operator?, Option.or_none]
    by_cases heq : name = other
    · simp [Change.removes, heq]
    · simp [Change.removes, heq, Ne.symm heq]

/-! ## Courses of changes. -/

theorem since_concat (name : String) (history : List Change) (change : Change) :
    since name (history ++ [change]) =
      if change.removes name then [] else since name history ++ [change] := by
  rw [since, List.rtakeWhile_concat]
  cases change.removes name <;> rfl

theorem find?_ofHistory (history : List Change) (name : String) :
    (ofHistory history).find? name = (since name history).findSome? (·.operator? name) := by
  induction history using List.reverseRecOn with
  | nil => rfl
  | append_singleton history change ih =>
    have hconcat : ofHistory (history ++ [change]) = (ofHistory history).after change := by
      simp [ofHistory]
    rw [hconcat, find?_after, since_concat, ih]
    split
    · rfl
    · rw [List.findSome?_append]
      simp

-- Once the name is removed, the first operator that is registered again is the one that counts.
example (old new other : Value → String → Bool) :
    (ofHistory [.register ⟨"#in", old, none⟩, .remove "#in", .register ⟨"#in", new, none⟩,
      .register ⟨"#in", other, none⟩]).find? "#in" = some ⟨"#in", new, none⟩ := by
  cbv

/-- What comes after the last removal of a name is followed by no other removal of it. -/
theorem mem_since_iff {history : List Change} {change : Change} :
    change ∈ since name history ↔ ∃ earlier later, history = earlier ++ change :: later ∧
      ∀ next ∈ change :: later, next.removes name = false := by
  constructor
  · intro h
    obtain ⟨between, later, hsince⟩ := List.append_of_mem h
    obtain ⟨earlier, hearlier⟩ : since name history <:+ history := List.rtakeWhile_suffix _ _
    refine ⟨earlier ++ between, later, by rw [← hearlier, hsince, List.append_assoc], ?_⟩
    intro next hnext
    have hmem : next ∈ since name history := by
      rw [hsince]
      exact List.mem_append_right _ hnext
    simpa using List.mem_rtakeWhile_imp hmem
  · rintro ⟨earlier, later, rfl, hlater⟩
    rw [since, List.rtakeWhile, List.reverse_append, List.mem_reverse,
      List.takeWhile_append_of_pos]
    · simp
    · intro next hnext
      simp [hlater next (List.mem_reverse.1 hnext)]

/-- An operator is found if one was registered and not removed since. -/
theorem isSome_find?_ofHistory (history : List Change) (name : String) :
    ((ofHistory history).find? name).isSome = true ↔ IsRegistered name history := by
  rw [find?_ofHistory, List.findSome?_isSome_iff]
  constructor
  · rintro ⟨change, hchange, hsome⟩
    obtain ⟨earlier, later, hsplit, hlater⟩ := mem_since_iff.1 hchange
    cases change with
    | register op =>
      obtain ⟨hop, hname⟩ : op.name = name ∧ isOperatorName name = true := by
        simpa [Change.operator?] using hsome
      exact ⟨earlier, op, later, hsplit, hop, hname, fun next h => hlater next (.tail _ h)⟩
    | remove other => cases hsome
  · rintro ⟨earlier, op, later, hsplit, hop, hname, hlater⟩
    refine ⟨.register op, mem_since_iff.2 ⟨earlier, later, hsplit, ?_⟩, ?_⟩
    · exact List.forall_mem_cons.2 ⟨rfl, hlater⟩
    · simp [Change.operator?, hop, hname]

/-! ## Reading a name. -/

/-- Where an operator is followed by one character, that is its value or ends an empty one. -/
theorem kind_ne_operator_of_mem_scanFrom {customs : List String} {position : Nat} {c : Char}
    {p : Token × Option Diagnostic} (h : p ∈ scanFrom customs ⟨.value, position, [c]⟩)
    (op : Operator) : p.1.kind ≠ .operator op := by
  rw [scanFrom_of_cut rfl (by simp [cut, cutValuePiece]), List.mem_cons] at h
  rcases h with rfl | h
  · simp [cut, cutValuePiece]
  change p ∈ scanFrom customs ⟨.plain, _, (cutValue [c]).2⟩ at h
  rcases List.append_eq_singleton_iff.1 (cutValue_append [c]) with ⟨-, hrest⟩ | ⟨-, hrest⟩
  · have hends := endsValue_cutValue [c]
    simp only [hrest, endsValue, isValueDelimiter, startsIgnoreCase, Bool.or_false,
      Bool.or_eq_true, beq_iff_eq] at hends
    rw [hrest] at h
    -- The character is a delimiter, which is a token, and behind it the text ends.
    rcases hends with ((rfl | rfl) | rfl) | rfl
    all_goals
      rw [scanFrom_of_cut rfl (by simp [cut, cutPlain, Piece.verbatim]), List.mem_cons] at h
      rcases h with rfl | h
      · simp [cut, cutPlain, Piece.verbatim]
      · change p ∈ scanFrom customs ⟨.plain, _, []⟩ at h
        rw [scanFrom_nil customs (by simp), List.mem_singleton] at h
        simp [h]
  · rw [hrest, scanFrom_nil customs (by simp), List.mem_singleton] at h
    simp [h]

/-- A name of the registry is read as its operator, however the text goes on behind the name. -/
theorem scan_operator (h : name ∈ r.names) {c : Char} (hc : isFieldChar c = false)
    (rest : List Char) : ∃ tokens,
    (scan r.names (String.ofList ('f' :: name.toList ++ c :: rest))).1 =
      ⟨.field, 0, "f"⟩ :: ⟨.operator (.custom name), 1, name⟩ :: tokens ∧
    (rest = [] → ∀ token ∈ tokens, ∀ op, token.kind ≠ .operator op) := by
  have hvalid : ∀ name ∈ r.names, isOperatorName name = true :=
    fun name hname => r.isOperatorName_of_mem_names hname
  obtain ⟨cs, hcs, -⟩ := exists_of_isOperatorName (hvalid name h)
  -- The `#` ends the name of the field, and the character behind the operator ends its name.
  have hfield : cut r.names .plain (['f'] ++ (name.toList ++ c :: rest)) =
      .verbatim .field ['f'] (name.toList ++ c :: rest) := by
    refine cut_field r.names (by simp) (by simp) (fun d hd => ?_) fun d hd => ?_
    · obtain rfl : d = 'f' := by simpa using hd
      decide
    · obtain rfl : d = '#' := by simpa [hcs, eq_comm] using hd
      decide
  have hoperator : cut r.names .afterField (name.toList ++ c :: rest) =
      ⟨.operator (.custom name), name.toList, name.toList, c :: rest, none⟩ := by
    refine cut_operator hvalid (by simp) (.inr ⟨name, h, rfl⟩) fun d hd => ?_
    obtain rfl : d = c := by simpa [eq_comm] using hd
    exact hc
  have hscan : scanFrom r.names (.start (String.ofList ('f' :: name.toList ++ c :: rest))) =
      (⟨.field, 0, "f"⟩, none) :: (⟨.operator (.custom name), 1, name⟩, none) ::
        scanFrom r.names ⟨.value, 1 + name.toList.length, c :: rest⟩ := by
    rw [Cursor.start, String.toList_ofList]
    change scanFrom r.names ⟨.plain, 0, ['f'] ++ (name.toList ++ c :: rest)⟩ = _
    rw [scanFrom_of_cut hfield (by simp [Piece.verbatim])]
    change _ :: scanFrom r.names ⟨.afterField, 1, name.toList ++ c :: rest⟩ = _
    rw [scanFrom_of_cut hoperator (by simp), String.ofList_toList]
    rfl
  refine ⟨_, by rw [scan, hscan]; rfl, ?_⟩
  rintro rfl token htoken op
  obtain ⟨p, hp, rfl⟩ := List.mem_map.1 htoken
  exact kind_ne_operator_of_mem_scanFrom hp op

/-! ## Registries. -/

/-- Whatever operators are registered and removed, a registry that begins without any holds the
first one of each name since the name was removed last, and a filter can use it. -/
theorem ofHistory_follows (history : List Change) : (ofHistory history).Follows history where
  ascending := List.pairwise_map.2 (ofHistory history).ascending
  listed _ := mem_names_iff.trans (isSome_find?_ofHistory history _)
  named _ hname := isOperatorName_iff.1 (isOperatorName_of_mem_names _ hname)
  found := find?_ofHistory history
  added _ := exists_register_eq_added_iff
  known _ := register_eq_known_iff
  refused _ := register_eq_badName_iff
  kept _ := after_register_of_not_added
  reached _ hname _ hc rest := scan_operator hname hc rest

end FilterQuery.OperatorRegistry
