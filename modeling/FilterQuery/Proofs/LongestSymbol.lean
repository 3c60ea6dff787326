import FilterQuery.Operators
import FilterQuery.Proofs.ScanPrinted
import FilterQuery.Proofs.TokenTiling

/-!
# The longest symbol wins

Some symbols of operators begin others: `=` begins `=*`, and a custom operator may have a name that
begins the name of another one. Built-in symbols are told apart by their first two characters and
custom names are searched for, but both come to the same rule: wherever a text is not read as a
value, the longest of all symbols that begin it is an operator, and there is none only where no
symbol begins.

## Key results

- `isLongest_of_operatorAt`, `operatorAt_eq_none_iff`: the operator found is the one with the
  longest symbol
- `kind_cut_eq_operator_iff`: pieces that are operators are those found by their symbols
- `scan_reads_longest`: the tokens of a text follow the rule
-/

namespace FilterQuery

/-- The symbols of the built-in operators and of custom ones. -/
def symbols (customs : List String) : List String := Operator.builtin.map (·.symbol) ++ customs

/-- Whether a text begins with the symbol, and with none of the given ones that is longer. -/
structure IsLongest (symbols : List String) (text : List Char) (symbol : String) : Prop where
  mem : symbol ∈ symbols
  begins : symbol.toList <+: text
  longest : ∀ other ∈ symbols, other.toList <+: text → other.length ≤ symbol.length

variable {customs : List String} {text : List Char} {op : Operator}

theorem symbol_mem_symbols (h : op.IsKnown customs) : op.symbol ∈ symbols customs := by
  rcases h with h | ⟨name, hname, rfl⟩
  · exact List.mem_append_left _ (List.mem_map_of_mem h)
  · exact List.mem_append_right _ hname

/-! ## The operator at the front of a text. -/

/-- If a built-in symbol may go on with a character, it is then the symbol of another built-in
operator, which no character makes longer. -/
theorem exists_longer_of_mayExtendBy (h : op ∈ Operator.builtin) {c : Char}
    (hc : op.mayExtendBy isFieldChar c = true) :
    ∃ longer ∈ Operator.builtin, longer.symbol.toList = op.symbol.toList ++ [c] ∧
      ∀ d, longer.mayExtendBy isFieldChar d = false := by
  cases op with
  | custom name => simp [Operator.builtin] at h
  | equal =>
    obtain rfl : c = '*' := by simpa [Operator.mayExtendBy] using hc
    exact ⟨.contains, by decide, rfl, fun _ => rfl⟩
  | greater =>
    obtain rfl : c = '=' := by simpa [Operator.mayExtendBy] using hc
    exact ⟨.greaterEqual, by decide, rfl, fun _ => rfl⟩
  | less =>
    obtain rfl : c = '=' := by simpa [Operator.mayExtendBy] using hc
    exact ⟨.lessEqual, by decide, rfl, fun _ => rfl⟩
  | _ => simp [Operator.mayExtendBy] at hc

/-- Where a built-in symbol begins a text, an operator is found, and none with a shorter symbol. -/
theorem exists_operatorAt_of_builtin (hcustoms : ∀ name ∈ customs, isOperatorName name = true)
    (h : op ∈ Operator.builtin) (hbegins : op.symbol.toList <+: text) :
    ∃ found, operatorAt customs text = some found ∧ op.symbol.length ≤ found.symbol.length := by
  obtain ⟨rest, rfl⟩ := hbegins
  by_cases hextends : ∃ c ∈ rest.head?, op.mayExtendBy isFieldChar c = true
  · obtain ⟨c, hc, hextends⟩ := hextends
    obtain ⟨longer, hlonger, hsymbol, hlast⟩ := exists_longer_of_mayExtendBy h hextends
    obtain ⟨rest, rfl⟩ := List.head?_eq_some_iff.1 hc
    refine ⟨longer, ?_, ?_⟩
    · rw [List.append_cons, ← hsymbol]
      exact operatorAt_symbol hcustoms (.inl hlonger) fun d _ => hlast d
    · rw [← String.length_toList, ← String.length_toList, hsymbol, List.length_append]
      omega
  · refine ⟨op, operatorAt_symbol hcustoms (.inl h) fun c hc => ?_, le_rfl⟩
    exact Bool.eq_false_iff.2 fun hextended => hextends ⟨c, hc, hextended⟩

/-- Where the name of a custom operator begins a text, an operator is found, and none with a shorter
symbol. -/
theorem exists_operatorAt_of_custom (hcustoms : ∀ name ∈ customs, isOperatorName name = true)
    {name : String} (h : name ∈ customs) (hbegins : name.toList <+: text) :
    ∃ found, operatorAt customs text = some found ∧ name.length ≤ found.symbol.length := by
  obtain ⟨cs, hcs, -⟩ := exists_of_isOperatorName (hcustoms name h)
  obtain ⟨longest, hlongest, hle⟩ := length_le_of_longestName h hbegins
  obtain ⟨rest, rfl⟩ := hbegins
  refine ⟨.custom longest, ?_, hle⟩
  -- Custom operators are searched for only at a `#`, with which the name begins.
  rw [hcs, List.cons_append] at hlongest ⊢
  rw [operatorAt, hlongest, Option.map_some]

/-- Where a symbol begins a text, an operator is found, and none with a shorter symbol. -/
theorem exists_operatorAt (hcustoms : ∀ name ∈ customs, isOperatorName name = true)
    {symbol : String} (h : symbol ∈ symbols customs) (hbegins : symbol.toList <+: text) :
    ∃ found, operatorAt customs text = some found ∧ symbol.length ≤ found.symbol.length := by
  rcases List.mem_append.1 h with h | h
  · obtain ⟨op, hop, rfl⟩ := List.mem_map.1 h
    exact exists_operatorAt_of_builtin hcustoms hop hbegins
  · exact exists_operatorAt_of_custom hcustoms h hbegins

/-- The operator that is found has the longest symbol that begins the text. -/
theorem isLongest_of_operatorAt (hcustoms : ∀ name ∈ customs, isOperatorName name = true)
    (h : operatorAt customs text = some op) : IsLongest (symbols customs) text op.symbol where
  mem := symbol_mem_symbols (isKnown_of_operatorAt h)
  begins := prefix_of_operatorAt h
  longest := fun other hother hbegins => by
    obtain ⟨found, hfound, hle⟩ := exists_operatorAt hcustoms hother hbegins
    cases h.symm.trans hfound
    exact hle

-- A longer name counts only if all of it begins the text.
example : operatorAt ["#in", "#inside"] "#insid".toList = some (.custom "#in") ∧
    operatorAt ["#in", "#inside"] "#insider".toList = some (.custom "#inside") := by
  decide

/-- No operator is found only where no symbol begins. -/
theorem operatorAt_eq_none_iff (hcustoms : ∀ name ∈ customs, isOperatorName name = true) :
    operatorAt customs text = none ↔ ∀ symbol ∈ symbols customs, ¬symbol.toList <+: text := by
  constructor
  · intro hnone symbol hsymbol hbegins
    obtain ⟨found, hfound, -⟩ := exists_operatorAt hcustoms hsymbol hbegins
    cases hnone.symm.trans hfound
  · intro hnot
    cases h : operatorAt customs text with
    | none => rfl
    | some op =>
      have hlongest := isLongest_of_operatorAt hcustoms h
      exact absurd hlongest.begins (hnot _ hlongest.mem)

/-! ## The operators of a text. -/

/-- Operators are found only at the characters with which symbols begin. -/
theorem operatorAt_eq_none_of_not_mem {c : Char} (h : c ∉ symbolStarts) (rest : List Char) :
    operatorAt customs (c :: rest) = none := by
  unfold operatorAt
  split
  case h_14 => rfl
  all_goals
    obtain ⟨rfl, -⟩ := List.cons.inj ‹_›
    exact absurd (by decide) h

theorem kind_cutWord_eq_operator_iff (customs : List String) (c : Char) (rest : List Char) :
    (cutWord customs c rest).kind = .operator op ↔ operatorAt customs (c :: rest) = some op := by
  unfold cutWord
  split
  · rename_i found hfound
    simp [hfound]
  · rename_i hnone
    split <;> simp [hnone, Piece.verbatim]

theorem kind_cutPlain_eq_operator_iff (customs : List String) (afterField : Bool)
    (text : List Char) :
    (cutPlain customs afterField text).kind = .operator op ↔ operatorAt customs text = some op := by
  unfold cutPlain
  split
  case h_7 c rest _ _ _ _ _ =>
    split
    · rename_i hblank
      have hstart : c ∉ symbolStarts := fun hc => by
        simp [isBlank_symbolStart c hc] at hblank
      simp [Piece.verbatim, operatorAt_eq_none_of_not_mem hstart]
    · split
      · rename_i hbracket
        have hnone : operatorAt customs (c :: rest) = none := by
          rw [hbracket.1]
          exact operatorAt_eq_none_of_not_mem (by decide) rest
        unfold cutIndexPiece
        split <;> simp [hnone]
      · exact kind_cutWord_eq_operator_iff customs c rest
  all_goals simp [Piece.verbatim, operatorAt]

/-- Where no value is expected, pieces are operators just as the symbols say. -/
theorem kind_cut_eq_operator_iff {mode : Mode} (hmode : mode ≠ .value) :
    (cut customs mode text).kind = .operator op ↔ operatorAt customs text = some op := by
  cases mode with
  | value => exact absurd rfl hmode
  | plain => exact kind_cutPlain_eq_operator_iff customs false text
  | afterField => exact kind_cutPlain_eq_operator_iff customs true text

/-- Every token from a place of a text on is cut off at some place of the text. -/
theorem exists_liesIn_of_mem_scanFrom {cursor : Cursor} (hcursor : cursor.LiesIn text)
    {p : Token × Option Diagnostic} (h : p ∈ scanFrom customs cursor) :
    ∃ place : Cursor, place.LiesIn text ∧
      p = ((place.next customs).1, (place.next customs).2.1) := by
  fun_induction scanFrom customs cursor with
  | case1 cursor hfinish => exact ⟨cursor, hcursor, List.mem_singleton.1 h⟩
  | case2 cursor hfinish ih =>
    rcases List.mem_cons.1 h with rfl | h
    · exact ⟨cursor, hcursor, rfl⟩
    · exact ih (hcursor.next customs) h

/-- A token is an operator just as the symbols at its position say, unless it is a value. -/
theorem kind_eq_operator_iff_of_mem_scan {text : String} {token : Token}
    (h : token ∈ (scan customs text).1) (hvalue : token.kind ≠ .value) :
    token.kind = .operator op ↔
      operatorAt customs (text.toList.drop token.position) = some op := by
  obtain ⟨p, hp, rfl⟩ := List.mem_map.1 h
  have hstart : (Cursor.start text).LiesIn text.toList := ⟨Nat.zero_le _, rfl⟩
  obtain ⟨place, hplace, rfl⟩ := exists_liesIn_of_mem_scanFrom hstart hp
  have hmode : place.mode ≠ .value := fun hmode =>
    hvalue (by simp [Cursor.next, cut, hmode, cutValuePiece])
  change (cut customs place.mode place.rest).kind = _ ↔
    operatorAt customs (text.toList.drop place.position) = _
  rw [← hplace.2]
  exact kind_cut_eq_operator_iff hmode

/-- Whatever operators are registered, each operator in a text has the longest symbol that begins
where it is, built in or registered. And no symbol begins where a token is that is neither an
operator nor a value, so none begins at a bad character. -/
theorem scan_reads_longest (r : OperatorRegistry) (text : String) :
    (∀ token ∈ (scan r.names text).1, ∀ op, token.kind = .operator op →
      IsLongest (symbols r.names) (text.toList.drop token.position) op.symbol) ∧
    ∀ token ∈ (scan r.names text).1, token.kind ≠ .value → (∀ op, token.kind ≠ .operator op) →
      ∀ symbol ∈ symbols r.names, ¬symbol.toList <+: text.toList.drop token.position := by
  have hnames : ∀ name ∈ r.names, isOperatorName name = true :=
    fun name hname => r.isOperatorName_of_mem_names hname
  refine ⟨fun token htoken op hop => ?_, fun token htoken hvalue hother => ?_⟩
  · have hat := (kind_eq_operator_iff_of_mem_scan htoken (by simp [hop])).1 hop
    exact isLongest_of_operatorAt hnames hat
  · refine (operatorAt_eq_none_iff hnames).1 (Option.eq_none_iff_forall_ne_some.2 fun op hat => ?_)
    exact hother op ((kind_eq_operator_iff_of_mem_scan htoken hvalue).2 hat)

end FilterQuery
