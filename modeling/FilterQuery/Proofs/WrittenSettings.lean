import FilterQuery.Declaration.Outline

/-!
# Settings as they are written

The settings of a field are the flags `skip`, `nested` and `list`, and names that `rename` gives it.
An attribute has any number of them, in any order, with commas between them and perhaps one behind the
last. They are read as the entries that they stand for.

## Key results

- `Listed.run_terminated`: items with commas between them are read one after the other
- `Setting.run_readEntry`: a setting is read as an entry, up to the comma or the end behind it
- `entriesOf_of_listed`: the settings of an attribute are read as they are written
-/

namespace FilterQuery.Declaration

open Reader

/-! ## Lists with commas. -/

/-- Whether an item of a list ends in front of trees. -/
inductive EndsItem : List Tree → Prop
  | nil : EndsItem []
  | comma (joined : Bool) (rest : List Tree) : EndsItem (.leaf (.sign ',' joined) :: rest)

/-- Whether trees are items with commas between them, and perhaps one behind the last. -/
inductive Listed {β : Type} (spell : β → List Tree) : List β → List Tree → Prop
  | nil : Listed spell [] []
  | last (b : β) : Listed spell [b] (spell b)
  | cons (b : β) (joined : Bool) {bs : List β} {trees : List Tree} (h : Listed spell bs trees) :
      Listed spell (b :: bs) (spell b ++ .leaf (.sign ',' joined) :: trees)

namespace Listed

variable {α β : Type} {spell : β → List Tree} {bs : List β} {trees : List Tree}

theorem length_le (hspell : ∀ b, spell b ≠ []) (h : Listed spell bs trees) :
    bs.length ≤ trees.length := by
  induction h with
  | nil => exact Nat.le_refl 0
  | last b => exact List.length_pos_iff.2 (hspell b)
  | cons b joined h ih =>
    rw [List.length_cons, List.length_append, List.length_cons]
    omega

/-- What reads one item up to its end reads the items of a list, the last one first. -/
theorem run_repeatStep {item : Reader α} {value : β → α} (hspell : ∀ b, spell b ≠ [])
    (hitem : ∀ b rest, EndsItem rest → ∀ whole,
      item.run ⟨spell b ++ rest, whole⟩ = .ok (value b, ⟨rest, whole⟩))
    (h : Listed spell bs trees) (limit : Nat) (hlimit : bs.length < limit) (items : List α)
    (whole : Bool) :
    (repeatStep (oneMore (fun trees => !trees.isEmpty) (commaItem List.isEmpty item)) limit
        items).run ⟨trees, whole⟩ =
      .ok ((bs.map value).reverse ++ items, ⟨[], whole⟩) := by
  -- Where an item stands, the list is not at its end, and one step takes the item.
  have hstep : ∀ b rest after, (commaItem List.isEmpty item).run ⟨spell b ++ rest, whole⟩ =
      .ok (value b, after) → ∀ items, (oneMore (fun trees => !trees.isEmpty)
        (commaItem List.isEmpty item) items).run ⟨spell b ++ rest, whole⟩ =
      .ok (some (value b :: items), after) := by
    intro b rest after hread
    refine run_oneMore ?_ hread
    rw [List.isEmpty_eq_false_iff.2 (List.append_ne_nil_of_left_ne_nil (hspell b) rest)]
    rfl
  induction h generalizing limit items with
  | nil =>
    -- The limit leaves one step more than there are items, and that one finds the end.
    obtain ⟨limit, rfl⟩ := Nat.exists_eq_succ_of_ne_zero (Nat.ne_of_gt hlimit)
    exact run_repeatStep_none rfl limit
  | last b =>
    obtain ⟨limit, rfl⟩ : ∃ n, limit = n + 2 := Nat.exists_eq_add_of_le' hlimit
    have hmore := hstep b [] _ (run_commaItem_stop (hitem b [] .nil whole) rfl) items
    rw [List.append_nil] at hmore
    rw [run_repeatStep_some hmore, run_repeatStep_none rfl]
    rfl
  | @cons b joined bs trees h ih =>
    obtain ⟨limit, rfl⟩ := Nat.exists_eq_succ_of_ne_zero (Nat.ne_of_gt (Nat.zero_lt_of_lt hlimit))
    have hcomma : atSymbol "," (.leaf (.sign ',' joined) :: trees) = true := by cases joined <;> rfl
    have hread := hitem b (.leaf (.sign ',' joined) :: trees) (.comma joined trees) whole
    rw [run_repeatStep_some (hstep b _ _ (run_commaItem_comma hread rfl hcomma) items)]
    exact (ih limit (Nat.lt_of_succ_lt_succ hlimit) (value b :: items)).trans (by simp)

/-- What reads one item up to its end reads a list of them. -/
theorem run_terminated {item : Reader α} {value : β → α} (hspell : ∀ b, spell b ≠ [])
    (hitem : ∀ b rest, EndsItem rest → ∀ whole,
      item.run ⟨spell b ++ rest, whole⟩ = .ok (value b, ⟨rest, whole⟩))
    (h : Listed spell bs trees) (whole : Bool) :
    (terminated item).run ⟨trees, whole⟩ = .ok (bs.map value, ⟨[], whole⟩) := by
  have hrun := h.run_repeatStep hspell hitem (trees.length + 1)
    (Nat.lt_succ_of_le (h.length_le hspell)) [] whole
  simp only [terminated, commaList, many, iterate, StateT.run_bind, run_ahead, ok_bind, hrun,
    List.append_nil, StateT.run_pure, List.reverse_reverse]
  rfl

end Listed

/-! ## Words and texts. -/

theorem run_readWords {word : String} (hword : keywords.contains word = false) {rest : List Tree}
    (hrest : atSymbol "::" rest = false) (whole : Bool) :
    readWords.run ⟨.leaf (.word word) :: rest, whole⟩ = .ok ([word], ⟨rest, whole⟩) := by
  have hat : atPathWord (.leaf (.word word) :: rest) = true := by
    simp only [atPathWord, atIdentifier, hword, Bool.not_false, Bool.true_or]
  simp only [readWords, iterate, StateT.run_bind, run_ahead, ok_bind, List.length_cons, repeatStep,
    hat, Bool.true_and, if_true, run_anyWord, run_symbol?, hrest]
  rfl

/-- A word that is no keyword is a path, unless the path goes on. -/
theorem run_readEntryPath {word : String} (hword : keywords.contains word = false)
    {rest : List Tree} (hrest : atSymbol "::" rest = false) (whole : Bool) :
    readEntryPath.run ⟨.leaf (.word word) :: rest, whole⟩ =
      .ok (.ofWord word, ⟨rest, whole⟩) := by
  have hunsafe : atWord "unsafe" (.leaf (.word word) :: rest) = false := by
    rw [atWord, beq_eq_false_iff_ne]
    rintro rfl
    simp [keywords] at hword
  have hroot : atSymbol "::" (.leaf (.word word) :: rest) = false := rfl
  simp only [readEntryPath, readPlainPath, StateT.run_bind, run_word?, hunsafe, run_symbol?, hroot,
    ok_bind, Bool.false_eq_true, if_false, run_readWords hword hrest]
  rfl

variable {g : Grammar}

theorem EndsItem.strengthAhead_eq {trees : List Tree} (h : EndsItem trees) :
    strengthAhead trees = .none := by
  cases h with
  | nil => rfl
  | comma joined => cases joined <;> rfl

/-- Nothing goes on from a text at the end of an item. -/
theorem run_readTrailers_text (value : String) {rest : List Tree} (h : EndsItem rest)
    (whole : Bool) :
    (readTrailers g (.text value)).run ⟨rest, whole⟩ = .ok (.text value, ⟨rest, whole⟩) := by
  refine run_iterate ?_
  cases h with
  | nil => rfl
  | comma joined => cases joined <;> rfl

theorem run_readAtom_text (value : String) (records : Bool) (rest : List Tree) (whole : Bool) :
    (readAtom g records).run ⟨.leaf (.text value) :: rest, whole⟩ =
      .ok (.text value, ⟨rest, whole⟩) := rfl

theorem run_readOperand_text (value : String) (records : Bool) {rest : List Tree}
    (h : EndsItem rest) (whole : Bool) :
    (readOperand g records).run ⟨.leaf (.text value) :: rest, whole⟩ =
      .ok (.text value, ⟨rest, whole⟩) := by
  have hattributes : (readAttributes g).run ⟨.leaf (.text value) :: rest, whole⟩ =
      .ok ([], ⟨.leaf (.text value) :: rest, whole⟩) := run_many_of_not rfl
  -- No attribute and no sign stands in front of the text.
  have hand : atSymbol "&" (.leaf (.text value) :: rest) = false := rfl
  have hsign : ["*", "!", "-"].any (atSymbol · (.leaf (.text value) :: rest)) = false := rfl
  simp only [readOperand, StateT.run_bind, hattributes, ok_bind, run_ahead, hand, hsign,
    Bool.false_eq_true, if_false, run_readAtom_text, run_readTrailers_text value h]
  rfl

/-- A text at the end of an item is an expression of its own. -/
theorem run_expression_text (value : String) (depth : Nat) {rest : List Tree}
    (h : EndsItem rest) (whole : Bool) :
    ((Grammar.atDepth (depth + 1)).expression true).run ⟨.leaf (.text value) :: rest, whole⟩ =
      .ok (.text value, ⟨rest, whole⟩) := by
  have hoperand :
      (readOperand (Grammar.atDepth depth) true).run ⟨.leaf (.text value) :: rest, whole⟩ =
        .ok (.text value, ⟨rest, whole⟩) := run_readOperand_text value true h whole
  have hextend := @readExtension_of_strengthAhead (Grammar.atDepth depth) ⟨rest, whole⟩ true .none
    (.text value) h.strengthAhead_eq
  simp only [Grammar.expression, Grammar.atDepth, Grammar.deepen, StateT.run_bind, hoperand, ok_bind,
    hextend]

/-! ## Entries. -/

theorem run_readEntry_flag {word : String} (hword : keywords.contains word = false)
    {rest : List Tree} (h : EndsItem rest) (whole : Bool) :
    (readEntry g).run ⟨.leaf (.word word) :: rest, whole⟩ =
      .ok (.flag (.ofWord word), ⟨rest, whole⟩) := by
  have hrest : atSymbol "::" rest = false := by
    cases h with
    | nil => rfl
    | comma joined => cases joined <;> rfl
  simp only [readEntry, StateT.run_bind, run_readEntryPath hword hrest, ok_bind, run_ahead]
  cases h with
  | nil => rfl
  | comma joined => cases joined <;> rfl

theorem run_readValue_text (value : String) (depth : Nat) {rest : List Tree} (h : EndsItem rest)
    (whole : Bool) :
    (readValue (Grammar.atDepth (depth + 1))).run ⟨.leaf (.text value) :: rest, whole⟩ =
      .ok (some value, ⟨rest, whole⟩) := by
  have hattribute : (atSymbol "#" (.leaf (.text value) :: rest) &&
      atGroup .bracket ((Tree.leaf (.text value) :: rest).drop 1)) = false := rfl
  simp only [readValue, StateT.run_bind, run_ahead, ok_bind, hattribute, Bool.false_eq_true, if_false,
    run_expression_text value depth h]
  rfl

theorem run_readEntry_assigned {word : String} (hword : keywords.contains word = false)
    (value : String) (depth : Nat) {rest : List Tree} (h : EndsItem rest) (whole : Bool) :
    (readEntry (Grammar.atDepth (depth + 1))).run
        ⟨.leaf (.word word) :: .leaf (.sign '=' false) :: .leaf (.text value) :: rest, whole⟩ =
      .ok (.assigned (.ofWord word) (some value), ⟨rest, whole⟩) := by
  have hpath := @run_readEntryPath word hword (.leaf (.sign '=' false) :: .leaf (.text value) :: rest)
    rfl whole
  have hassignment :
      atAssignment (.leaf (.sign '=' false) :: .leaf (.text value) :: rest) = true := rfl
  simp only [readEntry, StateT.run_bind, hpath, ok_bind, run_ahead, hassignment, if_true, run_advance,
    List.drop_one, List.tail_cons, run_readValue_text value depth h]
  rfl

/-! ## Settings. -/

/-- What an attribute with the path `schema` may say of a field. -/
inductive Setting where
  | skip
  | nested
  | list
  | rename (name : String) (named : name ≠ "")
deriving DecidableEq

namespace Setting

/-- The setting as an entry. -/
def entry : Setting → Entry
  | skip => .flag (.ofWord "skip")
  | nested => .flag (.ofWord "nested")
  | list => .flag (.ofWord "list")
  | rename name _ => .assigned (.ofWord "rename") (some name)

/-- How the setting is written. -/
def trees : Setting → List Tree
  | skip => [.leaf (.word "skip")]
  | nested => [.leaf (.word "nested")]
  | list => [.leaf (.word "list")]
  | rename name _ => [.leaf (.word "rename"), .leaf (.sign '=' false), .leaf (.text name)]

theorem trees_ne_nil (setting : Setting) : setting.trees ≠ [] := by
  cases setting <;> exact List.cons_ne_nil _ _

/-- A setting is read as an entry, up to its end. -/
theorem run_readEntry (setting : Setting) (depth : Nat) {rest : List Tree} (h : EndsItem rest)
    (whole : Bool) :
    (readEntry (Grammar.atDepth (depth + 1))).run ⟨setting.trees ++ rest, whole⟩ =
      .ok (setting.entry, ⟨rest, whole⟩) := by
  cases setting with
  | skip => exact run_readEntry_flag (by decide) h whole
  | nested => exact run_readEntry_flag (by decide) h whole
  | list => exact run_readEntry_flag (by decide) h whole
  | rename name => exact run_readEntry_assigned (by decide) name depth h whole

end Setting

/-- The settings of an attribute are read as they are written. -/
theorem entriesOf_of_listed {settings : List Setting} {trees : List Tree}
    (h : Listed Setting.trees settings trees) :
    entriesOf trees = .ok (settings.map Setting.entry) := by
  have hrun : (terminated (readEntry (Grammar.forTrees trees))).run ⟨trees, true⟩ =
      .ok (settings.map Setting.entry, ⟨[], true⟩) :=
    h.run_terminated Setting.trees_ne_nil
      (fun setting _ hrest whole => setting.run_readEntry _ hrest whole) true
  simp only [entriesOf, readEntries, hrun]
  rfl

/-- Listed settings as they stand in a text. -/
example : Listed Setting.trees [.list, .rename "kids" (by decide)]
      [.leaf (.word "list"), .leaf (.sign ',' false), .leaf (.word "rename"),
        .leaf (.sign '=' false), .leaf (.text "kids")] ∧
    lexemes? "list, rename = \"kids\"" =
      some [.word "list", .sign ',' false, .word "rename", .sign '=' false, .text "kids"] :=
  ⟨.cons Setting.list false (.last (Setting.rename "kids" (by decide))), by decide +kernel⟩

end FilterQuery.Declaration
