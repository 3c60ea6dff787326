import FilterQuery.Proofs.ScanPrinted
import FilterQuery.Results.SortKey
import Mathlib.Data.List.Forall2
import Mathlib.Data.List.TakeWhile

/-!
# Texts of orders

The text of an order is read iff it is blank or every piece of it between commas is well formed: a
name with an optional mark, and behind white space an optional direction. Otherwise the first piece
that is malformed is reported where its own text begins. What is read can be written, with a comma and
a space between the items, and read again.

## Key results

- `Text.words_eq_cons_iff`: the words of a text, one by one
- `readItem_eq_ok_iff`: the grammar of an item
- `exists_readAll_eq_error_iff`: the place of the first malformed piece
- `readAll_reads`: the texts that are orders, where the others are reported, and the round trip
-/

namespace FilterQuery

/-! ## Words. -/

namespace Text

/-- Whether a text begins with the word, behind white space or not, and goes on with the rest, of
which it is set off by white space. -/
def StartsWith (cs word rest : List Char) : Prop :=
  ∃ lead, cs = lead ++ (word ++ rest) ∧ (∀ c ∈ lead, isBlank c = true) ∧ word ≠ [] ∧
    (∀ c ∈ word, isBlank c = false) ∧ ∀ c ∈ rest.head?, isBlank c = true

theorem words_append_of_isBlank {lead : List Char} (h : ∀ c ∈ lead, isBlank c = true)
    (cs : List Char) : words (lead ++ cs) = words cs := by
  induction lead with
  | nil => rfl
  | cons c lead ih =>
    obtain ⟨hc, hlead⟩ := List.forall_mem_cons.1 h
    rw [← ih hlead, List.cons_append, words, List.splitOnP_cons_eq_if_modifyHead, if_pos hc]
    rfl

/-- The first word of a text stands in front of those of the rest. -/
theorem StartsWith.words_eq {cs word rest : List Char} (h : StartsWith cs word rest) :
    words cs = word :: words rest := by
  obtain ⟨lead, rfl, hlead, hne, hword, hrest⟩ := h
  rw [words_append_of_isBlank hlead]
  cases rest with
  | nil =>
    rw [List.append_nil, words, List.splitOnP_eq_singleton hword]
    simp [hne, words]
  | cons c rest =>
    have hc : isBlank c = true := hrest c rfl
    -- The white space behind the word belongs to neither side.
    have hsplit : words (c :: rest) = words rest :=
      words_append_of_isBlank (List.forall_mem_singleton.2 hc) rest
    rw [hsplit, words, List.splitOnP_append_cons_of_forall_mem hword c hc,
      List.filter_cons_of_pos (by simpa using hne)]
    rfl

/-- A text that is not blank has a first word. -/
theorem exists_startsWith {cs : List Char} (h : ¬∀ c ∈ cs, isBlank c = true) :
    ∃ word rest, StartsWith cs word rest := by
  have hne : cs.dropWhile isBlank ≠ [] := mt List.dropWhile_eq_nil_iff.1 h
  refine ⟨(cs.dropWhile isBlank).takeWhile (!isBlank ·), (cs.dropWhile isBlank).dropWhile (!isBlank ·),
    cs.takeWhile isBlank, ?_, fun c hc => List.mem_takeWhile_imp hc, ?_, ?_, ?_⟩
  · rw [List.takeWhile_append_dropWhile, List.takeWhile_append_dropWhile]
  · have hhead := List.head_dropWhile_not isBlank hne
    rw [← List.cons_head_tail hne, List.takeWhile_cons_of_pos (by simp [hhead])]
    exact List.cons_ne_nil _ _
  · intro c hc
    simpa using List.mem_takeWhile_imp hc
  · intro c hc
    have hhead := List.head?_dropWhile_not (!isBlank ·) (cs.dropWhile isBlank)
    rw [Option.mem_def.1 hc] at hhead
    simpa using hhead

theorem words_eq_nil_iff {cs : List Char} : words cs = [] ↔ ∀ c ∈ cs, isBlank c = true := by
  constructor
  · intro h
    by_contra hnot
    obtain ⟨word, rest, hstarts⟩ := exists_startsWith hnot
    exact List.cons_ne_nil _ _ (hstarts.words_eq.symm.trans h)
  · intro h
    have hwords := words_append_of_isBlank h []
    rwa [List.append_nil] at hwords

theorem words_eq_cons_iff {cs word : List Char} {more : List (List Char)} :
    words cs = word :: more ↔ ∃ rest, StartsWith cs word rest ∧ words rest = more := by
  constructor
  · intro h
    have hnot : ¬∀ c ∈ cs, isBlank c = true := by
      intro hblank
      exact List.cons_ne_nil _ _ (h.symm.trans (words_eq_nil_iff.2 hblank))
    obtain ⟨first, rest, hstarts⟩ := exists_startsWith hnot
    obtain ⟨rfl, rfl⟩ := List.cons.inj (hstarts.words_eq.symm.trans h)
    exact ⟨rest, hstarts, rfl⟩
  · rintro ⟨rest, hstarts, rfl⟩
    exact hstarts.words_eq

end Text

/-! ## Items. -/

/-- The mark behind the name of a field. -/
def SortBasis.mark : SortBasis → List Char
  | value => []
  | isSet => ['?']
  | isNotSet => ['!']

/-- Whether a word is the name of the direction, in any case. -/
def Direction.IsNamedBy (direction : Direction) (word : List Char) : Prop :=
  word.map Char.toLower = direction.symbol.toList

/-- Whether a text is the name of a field. -/
def IsFieldName (name : List Char) : Prop := name ≠ [] ∧ ∀ c ∈ name, isFieldChar c = true

namespace SortKey

/-- Whether a text is an item: a name with its mark, and a direction behind white space. Without one
the direction is the ascending one. White space at the two ends does not count. -/
inductive IsItem : List Char → SortKey → Prop
  | bare {lead name trail : List Char} {basis : SortBasis}
      (hlead : ∀ c ∈ lead, Text.isBlank c = true) (hname : IsFieldName name)
      (htrail : ∀ c ∈ trail, Text.isBlank c = true) :
      IsItem (lead ++ (name ++ basis.mark ++ trail)) ⟨String.ofList name, .ascending, basis⟩
  | directed {lead name gap word trail : List Char} {direction : Direction} {basis : SortBasis}
      (hlead : ∀ c ∈ lead, Text.isBlank c = true) (hname : IsFieldName name) (hne : gap ≠ [])
      (hgap : ∀ c ∈ gap, Text.isBlank c = true) (hword : direction.IsNamedBy word)
      (htrail : ∀ c ∈ trail, Text.isBlank c = true) :
      IsItem (lead ++ (name ++ basis.mark ++ (gap ++ (word ++ trail))))
        ⟨String.ofList name, direction, basis⟩

theorem splitMark_append {name : List Char} (hname : IsFieldName name) (basis : SortBasis) :
    splitMark (name ++ basis.mark) = (name, basis) := by
  cases basis with
  | isSet => simp [splitMark, SortBasis.mark]
  | isNotSet => simp [splitMark, SortBasis.mark]
  | value =>
    rw [SortBasis.mark, List.append_nil]
    -- The last character of a name is none of the marks.
    have hlast : ∀ c ∈ name.getLast?, isFieldChar c = true :=
      fun c hc => hname.2 c (List.mem_of_getLast? hc)
    unfold splitMark
    split
    · rename_i heq
      exact absurd (hlast _ heq) (by decide)
    · rename_i heq
      exact absurd (hlast _ heq) (by decide)
    · rfl

theorem append_mark_of_splitMark {word member : List Char} {basis : SortBasis}
    (h : splitMark word = (member, basis)) : word = member ++ basis.mark := by
  unfold splitMark at h
  split at h
  · rename_i heq
    cases h
    exact (List.dropLast_append_getLast? _ heq).symm
  · rename_i heq
    cases h
    exact (List.dropLast_append_getLast? _ heq).symm
  · cases h
    rw [SortBasis.mark, List.append_nil]

end SortKey

namespace Direction

variable {direction : Direction} {word : List Char}

theorem read?_eq_some_iff : read? word = some direction ↔ direction.IsNamedBy word := by
  -- The name of a direction is read as this one, the other names and all other words are not.
  have hsymbol : ∀ first : Direction, word.map Char.toLower = first.symbol.toList →
      (some first = some direction ↔ direction.IsNamedBy word) := by
    intro first hfirst
    rw [IsNamedBy, hfirst, Option.some_inj]
    refine ⟨fun h => h ▸ rfl, fun h => ?_⟩
    cases first <;> cases direction <;> first | rfl | exact absurd h (by decide)
  simp only [read?]
  split
  · rename_i hasc
    exact hsymbol ascending hasc
  · split
    · rename_i hdesc
      exact hsymbol descending hdesc
    · constructor
      · intro h
        cases h
      · intro h
        cases direction <;> contradiction

/-- The name of a direction consists of letters. -/
theorem IsNamedBy.isAlpha (h : direction.IsNamedBy word) : ∀ c ∈ word, c.isAlpha = true := by
  intro c hc
  have hsymbol : ∀ d ∈ direction.symbol.toList, d.isAlpha = true := by
    cases direction <;> exact List.all_eq_true.1 (by decide)
  have hlower : c.toLower.isAlpha = true := hsymbol _ (h ▸ List.mem_map_of_mem hc)
  -- A letter that is changed by putting it into lower case is a capital.
  unfold Char.toLower at hlower
  split at hlower
  · rename_i hupper
    have hcapital : c.isUpper = true := decide_eq_true hupper
    exact Bool.or_eq_true_iff.2 (.inl hcapital)
  · exact hlower

theorem IsNamedBy.ne_nil (h : direction.IsNamedBy word) : word ≠ [] := by
  rintro rfl
  cases direction <;> cases h

end Direction

namespace SortKey

/-- The name of a field with its mark is a word. -/
theorem startsWith_of_isFieldName {lead name rest : List Char} (basis : SortBasis)
    (hlead : ∀ c ∈ lead, Text.isBlank c = true) (hname : IsFieldName name)
    (hrest : ∀ c ∈ rest.head?, Text.isBlank c = true) :
    Text.StartsWith (lead ++ (name ++ basis.mark ++ rest)) (name ++ basis.mark) rest := by
  refine ⟨lead, rfl, hlead, ?_, ?_, hrest⟩
  · exact fun hnil => hname.1 (List.append_eq_nil_iff.1 hnil).1
  · have hmark : ∀ c ∈ basis.mark, Text.isBlank c = false := by
      cases basis <;> simp [SortBasis.mark] <;> decide
    refine List.forall_mem_append.2 ⟨fun c hc => ?_, hmark⟩
    rw [Bool.eq_false_iff]
    intro hblank
    exact absurd (hname.2 c hc) (by simp [isFieldChar_eq_false_of_isBlank hblank])

theorem isItem_of_readItem {item : List Char} {key : SortKey} (h : readItem item = .ok key) :
    IsItem item key := by
  unfold readItem at h
  cases hwords : Text.words item with
  | nil => simp [hwords] at h
  | cons word more =>
    obtain ⟨rest, ⟨lead, rfl, hlead, -, -, hrest⟩, hmore⟩ := Text.words_eq_cons_iff.1 hwords
    rcases hmark : splitMark word with ⟨member, basis⟩
    obtain rfl := append_mark_of_splitMark hmark
    simp only [hwords, hmark] at h
    split at h
    · cases h
    · rename_i hvalid
      have hname : IsFieldName member := by
        simpa [IsFieldName, List.isEmpty_iff] using hvalid
      -- One word is a name alone, a second one has to be a direction, a third one is too many.
      cases more with
      | nil =>
        cases h
        exact .bare hlead hname (Text.words_eq_nil_iff.1 hmore)
      | cons second extra =>
        obtain ⟨trail, ⟨gap, rfl, hgap, hne, hsecond, -⟩, hextra⟩ := Text.words_eq_cons_iff.1 hmore
        -- The second word is set off from the first one.
        have hgapNe : gap ≠ [] := by
          rintro rfl
          obtain ⟨c, cs, rfl⟩ := List.exists_cons_of_ne_nil hne
          have hblank : Text.isBlank c = true := hrest c rfl
          simp [hsecond c List.mem_cons_self] at hblank
        cases hdirection : Direction.read? second with
        | none => simp [hdirection] at h
        | some direction =>
          cases extra with
          | cons third more => simp [hdirection] at h
          | nil =>
            simp only [hdirection] at h
            cases h
            exact .directed hlead hname hgapNe hgap (Direction.read?_eq_some_iff.1 hdirection)
              (Text.words_eq_nil_iff.1 hextra)

theorem readItem_of_isItem {item : List Char} {key : SortKey} (h : IsItem item key) :
    readItem item = .ok key := by
  cases h with
  | @bare lead name trail basis hlead hname htrail =>
    have hwords := (startsWith_of_isFieldName basis hlead hname
      fun c hc => htrail c (List.mem_of_mem_head? hc)).words_eq
    rw [Text.words_eq_nil_iff.2 htrail] at hwords
    simp only [readItem, hwords, splitMark_append hname basis]
    rw [if_neg (by simpa [List.isEmpty_iff, IsFieldName] using hname)]
  | @directed lead name gap word trail direction basis hlead hname hne hgap hword htrail =>
    have hhead : ∀ c ∈ (gap ++ (word ++ trail)).head?, Text.isBlank c = true := by
      intro c hc
      rw [List.head?_append_of_ne_nil _ hne] at hc
      exact hgap c (List.mem_of_mem_head? hc)
    have hfirst := (startsWith_of_isFieldName basis hlead hname hhead).words_eq
    have hsecond : Text.words (gap ++ (word ++ trail)) = word :: Text.words trail :=
      Text.StartsWith.words_eq ⟨gap, rfl, hgap, hword.ne_nil,
        fun c hc => Text.isBlank_eq_false_of_isAlpha (hword.isAlpha c hc),
        fun c hc => htrail c (List.mem_of_mem_head? hc)⟩
    -- The words of the item are the two, since there is only white space behind them.
    rw [hsecond, Text.words_eq_nil_iff.2 htrail] at hfirst
    simp only [readItem, hfirst, splitMark_append hname basis, Direction.read?_eq_some_iff.2 hword]
    rw [if_neg (by simpa [List.isEmpty_iff, IsFieldName] using hname)]

/-- The items that are read are those of the grammar. -/
theorem readItem_eq_ok_iff {item : List Char} {key : SortKey} :
    readItem item = .ok key ↔ IsItem item key :=
  ⟨isItem_of_readItem, readItem_of_isItem⟩

/-! ## Orders. -/

/-- Whether a text is an order with the given items: a blank text is the one without items, any other
has its items between commas. -/
inductive IsOrder : List Char → List SortKey → Prop
  | blank {cs : List Char} (h : ∀ c ∈ cs, Text.isBlank c = true) : IsOrder cs []
  | items {items : List (List Char)} {keys : List SortKey} (hne : items ≠ [])
      (h : List.Forall₂ IsItem items keys) : IsOrder ([','].intercalate items) keys

/-- Whether the first malformed piece of a text begins at the place: in front of it are items with a
comma behind each, and the white space of the piece. Behind it is a comma, or nothing. A blank piece
begins where it ends. -/
def IsMalformedAt (cs : List Char) (position : Nat) : Prop :=
  ∃ (good : List (List Char)) (lead piece rest : List Char),
    cs = good.flatMap (· ++ [',']) ++ (lead ++ piece) ++ rest ∧
    (∀ item ∈ good, ∃ key, IsItem item key) ∧ (∀ key, ¬IsItem (lead ++ piece) key) ∧
    ',' ∉ lead ++ piece ∧ (∀ c ∈ rest.head?, c = ',') ∧
    (∀ c ∈ lead, Text.isBlank c = true) ∧ (∀ c ∈ piece.head?, Text.isBlank c = false) ∧
    position = (good.flatMap (· ++ [',']) ++ lead).length

/-- The pieces of a text between its commas. -/
def pieces (cs : List Char) : List (List Char) := cs.splitOnP (· == ',')

theorem pieces_of_not_mem {piece : List Char} (h : ',' ∉ piece) : pieces piece = [piece] :=
  List.splitOnP_eq_singleton fun c hc => by simpa using ne_of_mem_of_not_mem hc h

theorem pieces_append {piece : List Char} (h : ',' ∉ piece) (cs : List Char) :
    pieces (piece ++ ',' :: cs) = piece :: pieces cs :=
  List.splitOnP_append_cons_of_forall_mem
    (fun c hc => by simpa using ne_of_mem_of_not_mem hc h) ',' rfl cs

/-- The first piece goes up to the first comma. -/
theorem pieces_eq_cons_iff {cs piece : List Char} {more : List (List Char)} :
    pieces cs = piece :: more ↔
      ',' ∉ piece ∧
        (cs = piece ∧ more = [] ∨ ∃ rest, cs = piece ++ ',' :: rest ∧ pieces rest = more) := by
  constructor
  · intro h
    have hfront : ',' ∉ cs.takeWhile (· != ',') := fun hmem => by
      simpa using List.mem_takeWhile_imp hmem
    have hback := List.head?_dropWhile_not (· != ',') cs
    -- The text is cut in front of its first comma, if it has one.
    rw [← List.takeWhile_append_dropWhile (p := (· != ',')) (l := cs)] at h ⊢
    cases hrest : cs.dropWhile (· != ',') with
    | nil =>
      rw [hrest, List.append_nil, pieces_of_not_mem hfront] at h
      cases h
      exact ⟨hfront, .inl ⟨List.append_nil _, rfl⟩⟩
    | cons c rest =>
      rw [hrest] at hback h
      obtain rfl : c = ',' := by simpa using hback
      rw [pieces_append hfront] at h
      cases h
      exact ⟨hfront, .inr ⟨rest, rfl, rfl⟩⟩
  · rintro ⟨hpiece, ⟨rfl, rfl⟩ | ⟨rest, rfl, rfl⟩⟩
    · exact pieces_of_not_mem hpiece
    · exact pieces_append hpiece rest

/-- A text and its pieces, up to one of them. -/
theorem pieces_eq_append_iff {cs piece : List Char} {good more : List (List Char)} :
    pieces cs = good ++ piece :: more ↔
      (∀ item ∈ good, ',' ∉ item) ∧
        ∃ rest, cs = good.flatMap (· ++ [',']) ++ rest ∧ pieces rest = piece :: more := by
  induction good generalizing cs with
  | nil => simp
  | cons item good ih =>
    rw [List.cons_append, pieces_eq_cons_iff]
    constructor
    · rintro ⟨hitem, ⟨-, hnil⟩ | ⟨behind, rfl, hbehind⟩⟩
      · simp at hnil
      · obtain ⟨hgood, rest, rfl, hrest⟩ := ih.1 hbehind
        exact ⟨List.forall_mem_cons.2 ⟨hitem, hgood⟩, rest, by simp, hrest⟩
    · rintro ⟨hgood, rest, rfl, hrest⟩
      obtain ⟨hitem, hgood⟩ := List.forall_mem_cons.1 hgood
      exact ⟨hitem, .inr ⟨_, by simp, ih.2 ⟨hgood, rest, rfl, hrest⟩⟩⟩

/-- Every character of an item is white space, of a name, a mark, or a letter. -/
theorem IsItem.comma_not_mem {item : List Char} {key : SortKey} (h : IsItem item key) :
    ',' ∉ item := by
  have hblank : ∀ {cs : List Char}, (∀ c ∈ cs, Text.isBlank c = true) → ',' ∉ cs :=
    fun hcs hmem => absurd (hcs _ hmem) (by decide)
  have hname : ∀ {name : List Char}, IsFieldName name → ',' ∉ name :=
    fun hname hmem => absurd (hname.2 _ hmem) (by decide)
  have hmark : ∀ basis : SortBasis, ',' ∉ basis.mark := by
    intro basis
    cases basis <;> simp [SortBasis.mark]
  cases h with
  | bare hlead hfield htrail => simp [hblank hlead, hname hfield, hmark, hblank htrail]
  | directed hlead hfield _ hgap hword htrail =>
    have hletters : ',' ∉ _ := fun hmem => absurd (hword.isAlpha _ hmem) (by decide)
    simp [hblank hlead, hname hfield, hmark, hblank hgap, hletters, hblank htrail]

/-- There is more than white space in an item. -/
theorem IsItem.not_blank {item : List Char} {key : SortKey} (h : IsItem item key) :
    ¬∀ c ∈ item, Text.isBlank c = true := by
  intro hblank
  have hread := readItem_of_isItem h
  rw [readItem, Text.words_eq_nil_iff.2 hblank] at hread
  cases hread

theorem readItems_of_forall₂ {items : List (List Char)} {keys : List SortKey}
    (h : List.Forall₂ IsItem items keys) (position : Nat) : readItems position items = .ok keys := by
  induction h generalizing position with
  | nil => rfl
  | cons hitem _ ih =>
    rw [readItems, readItem_of_isItem hitem, ih]
    rfl

/-- The first item that cannot be read is reported behind those in front of it, each with its comma,
and behind its own white space. -/
theorem readItems_of_malformed {good more : List (List Char)} {item : List Char}
    {problem : SortProblem} (hgood : ∀ g ∈ good, ∃ key, IsItem g key)
    (hitem : readItem item = .error problem) (position : Nat) :
    readItems position (good ++ item :: more) = .error (problem,
      position + (good.flatMap (· ++ [','])).length + (item.takeWhile Text.isBlank).length) := by
  induction good generalizing position with
  | nil => simp [readItems, hitem]
  | cons g good ih =>
    obtain ⟨⟨key, hkey⟩, hgood⟩ := List.forall_mem_cons.1 hgood
    rw [List.cons_append, readItems, readItem_of_isItem hkey, ih hgood]
    simp [Except.map, Nat.add_assoc, Nat.add_comm, Nat.add_left_comm]

/-- Either all items are read, or there is a first one that is not. -/
theorem forall₂_or_exists_malformed (items : List (List Char)) :
    (∃ keys, List.Forall₂ IsItem items keys) ∨
      ∃ good item more problem, items = good ++ item :: more ∧
        (∀ g ∈ good, ∃ key, IsItem g key) ∧ readItem item = .error problem := by
  induction items with
  | nil => exact .inl ⟨[], .nil⟩
  | cons item items ih =>
    cases hitem : readItem item with
    | error problem => exact .inr ⟨[], item, items, problem, rfl, by simp, hitem⟩
    | ok key =>
      have hkey := isItem_of_readItem hitem
      rcases ih with ⟨keys, hkeys⟩ | ⟨good, bad, more, problem, rfl, hgood, hbad⟩
      · exact .inl ⟨key :: keys, .cons hkey hkeys⟩
      · exact .inr ⟨item :: good, bad, more, problem, rfl,
          List.forall_mem_cons.2 ⟨⟨key, hkey⟩, hgood⟩, hbad⟩

theorem readItem_eq_error_iff {item : List Char} :
    (∃ problem, readItem item = .error problem) ↔ ∀ key, ¬IsItem item key := by
  simp only [← readItem_eq_ok_iff]
  cases readItem item <;> simp

/-- The text of a piece, from its white space to what stands behind it. -/
theorem exists_of_pieces_eq_cons {cs piece : List Char} {more : List (List Char)}
    (h : pieces cs = piece :: more) :
    ',' ∉ piece ∧ ∃ rest, cs = piece ++ rest ∧ ∀ c ∈ rest.head?, c = ',' := by
  obtain ⟨hpiece, ⟨rfl, -⟩ | ⟨rest, rfl, -⟩⟩ := pieces_eq_cons_iff.1 h
  · exact ⟨hpiece, [], by simp, by simp⟩
  · exact ⟨hpiece, ',' :: rest, rfl, by simp⟩

theorem exists_pieces_append {piece rest : List Char} (hpiece : ',' ∉ piece)
    (hrest : ∀ c ∈ rest.head?, c = ',') : ∃ more, pieces (piece ++ rest) = piece :: more := by
  cases rest with
  | nil => exact ⟨[], by rw [List.append_nil, pieces_of_not_mem hpiece]⟩
  | cons c rest =>
    obtain rfl : c = ',' := hrest c rfl
    exact ⟨pieces rest, pieces_append hpiece rest⟩

/-- The texts whose first malformed piece begins at a place, by their pieces. -/
theorem isMalformedAt_iff {cs : List Char} {position : Nat} :
    IsMalformedAt cs position ↔
      ∃ good piece more, pieces cs = good ++ piece :: more ∧ (∀ g ∈ good, ∃ key, IsItem g key) ∧
        (∀ key, ¬IsItem piece key) ∧
        position = (good.flatMap (· ++ [','])).length + (piece.takeWhile Text.isBlank).length := by
  constructor
  · rintro ⟨good, lead, piece, rest, rfl, hgood, hpiece, hcomma, hrest, hlead, hhead, rfl⟩
    obtain ⟨more, hmore⟩ := exists_pieces_append hcomma hrest
    have hcommas : ∀ item ∈ good, ',' ∉ item := fun item hitem =>
      (hgood item hitem).elim fun _ h => h.comma_not_mem
    refine ⟨good, lead ++ piece, more, pieces_eq_append_iff.2 ⟨hcommas, _, by simp, hmore⟩, hgood,
      hpiece, ?_⟩
    have htake : piece.takeWhile Text.isBlank = [] := by
      cases piece with
      | nil => rfl
      | cons c cs => exact List.takeWhile_cons_of_neg (by simp [hhead c rfl])
    rw [List.takeWhile_append_of_pos hlead, htake, List.append_nil, List.length_append]
  · rintro ⟨good, piece, more, hpieces, hgood, hpiece, rfl⟩
    obtain ⟨-, behind, rfl, hbehind⟩ := pieces_eq_append_iff.1 hpieces
    obtain ⟨hcomma, rest, rfl, hrest⟩ := exists_of_pieces_eq_cons hbehind
    have hsplit := List.takeWhile_append_dropWhile (p := Text.isBlank) (l := piece)
    refine ⟨good, piece.takeWhile Text.isBlank, piece.dropWhile Text.isBlank, rest, ?_⟩
    rw [hsplit, ← List.append_assoc, List.length_append]
    refine ⟨rfl, hgood, hpiece, hcomma, hrest, fun c hc => List.mem_takeWhile_imp hc, ?_, rfl⟩
    intro c hc
    have hhead := List.head?_dropWhile_not Text.isBlank piece
    rwa [Option.mem_def.1 hc] at hhead

/-- There is more than white space in an order with items. -/
theorem not_blank_of_forall₂ {items : List (List Char)} {keys : List SortKey} (hne : items ≠ [])
    (h : List.Forall₂ IsItem items keys) : ¬∀ c ∈ [','].intercalate items, Text.isBlank c = true := by
  cases h with
  | nil => exact absurd rfl hne
  | @cons item key items keys hitem hitems =>
    intro hblank
    apply hitem.not_blank
    intro c hc
    apply hblank
    cases items with
    | nil => rwa [List.intercalate_singleton]
    | cons next items =>
      rw [List.intercalate_cons_cons]
      exact List.mem_append_left _ (List.mem_append_left _ hc)

theorem isOrder_iff_of_blank {cs : List Char} {keys : List SortKey}
    (hblank : ∀ c ∈ cs, Text.isBlank c = true) : IsOrder cs keys ↔ keys = [] := by
  constructor
  · intro h
    cases h with
    | blank => rfl
    | items hne hitems => exact absurd hblank (not_blank_of_forall₂ hne hitems)
  · rintro rfl
    exact .blank hblank

theorem isOrder_iff_of_not_blank {cs : List Char} {keys : List SortKey}
    (hnot : ¬∀ c ∈ cs, Text.isBlank c = true) :
    IsOrder cs keys ↔ List.Forall₂ IsItem (pieces cs) keys := by
  constructor
  · intro h
    cases h with
    | blank hblank => exact absurd hblank hnot
    | @items items _ hne hitems =>
      have hcommas : ∀ item ∈ items, ',' ∉ item := by
        clear hne hnot
        induction hitems with
        | nil => simp
        | cons hitem _ ih => exact List.forall_mem_cons.2 ⟨hitem.comma_not_mem, ih⟩
      have hpieces : pieces ([','].intercalate items) = items :=
        List.splitOn_intercalate ',' hcommas hne
      rwa [hpieces]
  · intro h
    have hwhole : [','].intercalate (pieces cs) = cs := List.intercalate_splitOn ','
    rw [← hwhole]
    exact .items (List.splitOnP_ne_nil _ cs) h

theorem readAll_of_blank {text : String} (h : ∀ c ∈ text.toList, Text.isBlank c = true) :
    readAll text = .ok [] := by
  rw [readAll, if_pos (List.all_eq_true.2 h)]

theorem readAll_of_not_blank {text : String} (h : ¬∀ c ∈ text.toList, Text.isBlank c = true) :
    readAll text = readItems 0 (pieces text.toList) := by
  rw [readAll, if_neg (by simpa using h)]
  rfl

/-- The texts that are read are the orders. -/
theorem readAll_eq_ok_iff {text : String} {keys : List SortKey} :
    readAll text = .ok keys ↔ IsOrder text.toList keys := by
  by_cases hblank : ∀ c ∈ text.toList, Text.isBlank c = true
  · rw [readAll_of_blank hblank, isOrder_iff_of_blank hblank, Except.ok.injEq, eq_comm]
  · rw [readAll_of_not_blank hblank, isOrder_iff_of_not_blank hblank]
    constructor
    · intro h
      rcases forall₂_or_exists_malformed (pieces text.toList) with
        ⟨others, hothers⟩ | ⟨good, item, more, problem, hpieces, hgood, hitem⟩
      · rw [readItems_of_forall₂ hothers] at h
        cases h
        exact hothers
      · rw [hpieces, readItems_of_malformed hgood hitem] at h
        cases h
    · exact fun h => readItems_of_forall₂ h 0

/-- All other texts are reported at their first malformed piece. -/
theorem exists_readAll_eq_error_iff {text : String} {position : Nat} :
    (∃ problem, readAll text = .error (problem, position)) ↔
      (∀ keys, ¬IsOrder text.toList keys) ∧ IsMalformedAt text.toList position := by
  rw [isMalformedAt_iff]
  constructor
  · rintro ⟨problem, h⟩
    have hnot : ∀ keys, ¬IsOrder text.toList keys := by
      intro keys hkeys
      rw [readAll_eq_ok_iff.2 hkeys] at h
      cases h
    have hblank : ¬∀ c ∈ text.toList, Text.isBlank c = true := fun hblank =>
      hnot [] (.blank hblank)
    refine ⟨hnot, ?_⟩
    rcases forall₂_or_exists_malformed (pieces text.toList) with
      ⟨keys, hkeys⟩ | ⟨good, item, more, found, hpieces, hgood, hitem⟩
    · exact absurd ((isOrder_iff_of_not_blank hblank).2 hkeys) (hnot keys)
    · rw [readAll_of_not_blank hblank, hpieces, readItems_of_malformed hgood hitem] at h
      cases h
      exact ⟨good, item, more, hpieces, hgood, readItem_eq_error_iff.1 ⟨_, hitem⟩, by simp⟩
  · rintro ⟨hnot, good, piece, more, hpieces, hgood, hpiece, rfl⟩
    have hblank : ¬∀ c ∈ text.toList, Text.isBlank c = true := fun hblank =>
      hnot [] (.blank hblank)
    obtain ⟨problem, hproblem⟩ := readItem_eq_error_iff.2 hpiece
    refine ⟨problem, ?_⟩
    rw [readAll_of_not_blank hblank, hpieces, readItems_of_malformed hgood hproblem, Nat.zero_add]

/-! ## Writing. -/

/-- The items of an order as they are written, with a comma and a space between them. -/
def printAll (keys : List SortKey) : String := ", ".intercalate (keys.map text)

theorem toList_text (key : SortKey) :
    key.text.toList =
      key.member.toList ++ key.basis.mark ++ ' ' :: key.direction.symbol.toList := by
  obtain ⟨member, direction, basis⟩ := key
  cases basis <;> simp [text, SortBasis.mark]

/-- A written item is an item of the grammar, behind white space or not. -/
theorem isItem_text {key : SortKey} (hname : IsFieldName key.member.toList) (lead : List Char)
    (hlead : ∀ c ∈ lead, Text.isBlank c = true) : IsItem (lead ++ key.text.toList) key := by
  have hspace : ∀ c ∈ [' '], Text.isBlank c = true := List.forall_mem_singleton.2 (by decide)
  have hnamed : key.direction.IsNamedBy key.direction.symbol.toList := by
    cases key.direction <;> rfl
  have hitem : IsItem (lead ++ (key.member.toList ++ key.basis.mark ++
      ([' '] ++ (key.direction.symbol.toList ++ []))))
      ⟨String.ofList key.member.toList, key.direction, key.basis⟩ :=
    .directed hlead hname (List.cons_ne_nil _ _) hspace hnamed (by simp)
  rwa [String.ofList_toList, List.append_nil, List.singleton_append, ← toList_text] at hitem

theorem IsItem.isFieldName {item : List Char} {key : SortKey} (h : IsItem item key) :
    IsFieldName key.member.toList := by
  cases h with
  | bare _ hname _ => rwa [String.toList_ofList]
  | directed _ hname => rwa [String.toList_ofList]

theorem IsOrder.isFieldName {cs : List Char} {keys : List SortKey} (h : IsOrder cs keys) :
    ∀ key ∈ keys, IsFieldName key.member.toList := by
  cases h with
  | blank => simp
  | items hne hitems =>
    clear hne
    induction hitems with
    | nil => simp
    | cons hitem _ ih => exact List.forall_mem_cons.2 ⟨hitem.isFieldName, ih⟩

/-- With a comma and a space between them, all items but the first one have a space in front. -/
theorem intercalate_comma_space (item : List Char) (items : List (List Char)) :
    [',', ' '].intercalate (item :: items) = [','].intercalate (item :: items.map (' ' :: ·)) := by
  induction items generalizing item with
  | nil => rfl
  | cons next items ih =>
    have hspace : [','].intercalate ((' ' :: next) :: items.map (' ' :: ·)) =
        ' ' :: [','].intercalate (next :: items.map (' ' :: ·)) := by
      cases items <;> simp [List.intercalate_cons_cons]
    rw [List.intercalate_cons_cons, ih, List.map_cons, List.intercalate_cons_cons, hspace]
    simp

/-- What is written of items with the names of fields is an order with these items. -/
theorem isOrder_printAll {keys : List SortKey}
    (h : ∀ key ∈ keys, IsFieldName key.member.toList) : IsOrder (printAll keys).toList keys := by
  cases keys with
  | nil => exact .blank (by simp [printAll])
  | cons key keys =>
    obtain ⟨hkey, hkeys⟩ := List.forall_mem_cons.1 h
    have hspace : ∀ c ∈ [' '], Text.isBlank c = true := List.forall_mem_singleton.2 (by decide)
    have hitems : List.Forall₂ IsItem
        (key.text.toList :: keys.map fun key => ' ' :: key.text.toList) (key :: keys) := by
      refine .cons (isItem_text hkey [] (by simp)) ?_
      rw [List.forall₂_map_left_iff, List.forall₂_same]
      exact fun key hmem => isItem_text (hkeys key hmem) [' '] hspace
    have hprint : (printAll (key :: keys)).toList =
        [','].intercalate (key.text.toList :: keys.map fun key => ' ' :: key.text.toList) := by
      rw [printAll, String.toList_intercalate, List.map_cons, List.map_cons, List.map_map]
      show [',', ' '].intercalate _ = _
      rw [intercalate_comma_space, List.map_map]
      rfl
    rw [hprint]
    exact .items (List.cons_ne_nil _ _) hitems

/-- A text is read as the order with the items that the grammar finds in it. Where there are none, the
first malformed piece is reported, at its first character behind white space. The items that are read
can be written and read again. -/
theorem readAll_reads (text : String) :
    (∀ keys, readAll text = .ok keys ↔ IsOrder text.toList keys) ∧
      (∀ position, (∃ problem, readAll text = .error (problem, position)) ↔
        (∀ keys, ¬IsOrder text.toList keys) ∧ IsMalformedAt text.toList position) ∧
      ∀ keys, readAll text = .ok keys → readAll (printAll keys) = .ok keys := by
  refine ⟨fun keys => readAll_eq_ok_iff, fun position => exists_readAll_eq_error_iff, ?_⟩
  intro keys hkeys
  have horder := readAll_eq_ok_iff.1 hkeys
  exact readAll_eq_ok_iff.2 (isOrder_printAll horder.isFieldName)

/-- A capital direction behind a mark and a tabulator for a space are read, and written in the usual
way. A direction that is none is reported at its name, behind the white space. -/
theorem readAll_reads_email :
    readAll "email? DESC,\tname" = .ok [⟨"email", .descending, .isSet⟩, ⟨"name", .ascending, .value⟩] ∧
      readAll "email? desc, name asc" =
        .ok [⟨"email", .descending, .isSet⟩, ⟨"name", .ascending, .value⟩] ∧
      IsMalformedAt "name , age sideways".toList 7 := by
  have hread : readAll "email? DESC,\tname" =
      .ok [⟨"email", .descending, .isSet⟩, ⟨"name", .ascending, .value⟩] := by
    decide +kernel
  have herror : ∃ problem, readAll "name , age sideways" = .error (problem, 7) :=
    ⟨.badDirection "sideways", by decide +kernel⟩
  exact ⟨hread, (readAll_reads _).2.2 _ hread, (((readAll_reads _).2.1 7).1 herror).2⟩

end SortKey

end FilterQuery
