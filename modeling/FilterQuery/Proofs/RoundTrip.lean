import FilterQuery.Proofs.ParseCorrect
import FilterQuery.Proofs.ScanPrinted

/-!
# Written filters are read back

`WellFormed customs phrase e` describes the trees that a reader can find: an operand may be compared
again only if its last value carries the mark `/i`, since everything behind an unmarked value is
part of that value. Such a tree is written with the tokens of its derivation, so by the correctness
of the reader it is read back; and the trees that are read without diagnostics are all of this form.

## Key results

- `wellFormed_of_derives`: the tree of a derivation is well-formed
- `scans_print`: a written expression is scanned as the tokens of a derivation of it
- `parse_image`: the trees that are read are the well-formed ones, and each is read back
-/

namespace FilterQuery

/-- Whether an operator may follow the operand. -/
def Expr.isComparable : Expr → Bool
  | .comparison _ _ (.value _ ignoreCase) => ignoreCase
  | _ => true

/-- The trees of the phrases of the filter language, with the names of the custom operators that may
occur in them. -/
inductive WellFormed (customs : List String) : Phrase → Expr → Prop
  | field {name : String} {index : Option String} (hne : name ≠ "")
      (hname : ∀ c ∈ name.toList, isFieldChar c = true) :
      WellFormed customs .primary (.field name index)
  | group {e : Expr} (h : WellFormed customs .filter e) : WellFormed customs .primary (.group e)
  | primary {e : Expr} (h : WellFormed customs .primary e) : WellFormed customs .operand e
  | comparison {left : Expr} {op : Operator} {raw : String} {ignoreCase : Bool}
      (hleft : WellFormed customs .operand left) (hcomparable : left.isComparable = true)
      (hop : op.IsKnown customs) :
      WellFormed customs .operand (.comparison left op (.value raw ignoreCase))
  | operand {e : Expr} (h : WellFormed customs .operand e) : WellFormed customs .filter e
  | logical {left right : Expr} {c : Conjunction} (hleft : WellFormed customs .filter left)
      (hright : WellFormed customs .operand right) :
      WellFormed customs .filter (.logical left c right)

/-! ## Trees that are read are well-formed. -/

/-- What a token of a clean text says about the tree it becomes part of. -/
def Token.Fits (customs : List String) (t : Token) : Prop :=
  match t.kind with
  | .field => t.text ≠ "" ∧ ∀ c ∈ t.text.toList, isFieldChar c = true
  | .operator op => op.IsKnown customs
  | _ => True

/-- Behind a value there is no operator. -/
def NoOperatorAfterValue (a b : Token) : Prop :=
  a.kind = .value → ∀ op, b.kind ≠ .operator op

/-- An operand that is not comparable ends with a value. -/
theorem ends_with_value {ts : List Token} {e : Expr} (h : Derives .operand ts e)
    (he : e.isComparable = false) : ∃ us v, ts = us ++ [v] ∧ v.kind = .value := by
  cases h with
  | primary h => cases h <;> simp [Expr.isComparable] at he
  | @comparison us _ _ _ t _ hleft ht hright =>
    cases hright with
    | @value v hv => exact ⟨us ++ [t], v, by simp, hv⟩
    | marked hv hm => simp [Expr.isComparable] at he

theorem wellFormed_of_derives {customs : List String} {phrase : Phrase} {ts : List Token} {e : Expr}
    (h : Derives phrase ts e) (hphrase : phrase ≠ .value) (hfits : ∀ t ∈ ts, t.Fits customs)
    (hchain : ts.IsChain NoOperatorAfterValue) : WellFormed customs phrase e := by
  induction h with
  | @field t ht =>
    have := hfits t (by simp)
    simp only [Token.Fits, ht] at this
    exact .field this.1 this.2
  | @indexed t i ht hi =>
    have := hfits t (by simp)
    simp only [Token.Fits, ht] at this
    exact .field this.1 this.2
  | @group l r ts e hl _ hr ih =>
    have hinner : (l :: ts).IsChain NoOperatorAfterValue := hchain.left_of_append
    exact .group (ih (by simp) (fun t ht => hfits t (by simp [ht])) hinner.tail)
  | primary _ ih => exact .primary (ih (by simp) hfits hchain)
  | @comparison ts us left right t op hleft ht hright ihl _ =>
    have hl := ihl (by simp) (fun t ht => hfits t (by simp [ht])) hchain.left_of_append
    have hop := hfits t (by simp)
    simp only [Token.Fits, ht] at hop
    have hcomparable : left.isComparable = true := by
      by_contra hnot
      -- The value at the end of the left operand would stand directly before the operator.
      obtain ⟨vs, v, rfl, hv⟩ := ends_with_value hleft (by simpa using hnot)
      rw [List.append_assoc, List.singleton_append] at hchain
      exact (List.isChain_append_cons_cons.1 hchain).2.1 hv op ht
    cases hright with
    | value hv => exact .comparison hl hcomparable hop
    | marked hv hm => exact .comparison hl hcomparable hop
  | value hv => exact absurd rfl hphrase
  | marked hv hm => exact absurd rfl hphrase
  | operand _ ih => exact .operand (ih (by simp) hfits hchain)
  | @logical ts us left right t c _ ht _ ihl ihr =>
    exact .logical
      (ihl (by simp) (fun t ht => hfits t (by simp [ht])) hchain.left_of_append)
      (ihr (by simp) (fun t ht => hfits t (by simp [ht])) hchain.right_of_append.tail)

theorem sentence_fits (customs : List String) (text : String) :
    ∀ t ∈ sentence customs text, t.Fits customs := by
  intro t ht
  obtain ⟨p, hp, rfl⟩ := List.mem_map.1 (List.mem_filter.1 ht).1
  obtain ⟨cursor, rfl⟩ := exists_of_mem_scanFrom hp
  have hfits := (fits_cut customs cursor.mode cursor.rest).2
  simp only [Token.Fits, Cursor.next]
  split
  · rename_i hk
    rw [hk] at hfits
    exact ⟨by simpa using hfits.1, by simpa using hfits.2⟩
  · rename_i op hk
    rw [hk] at hfits
    exact hfits
  · trivial

/-- Leaving out blanks does not bring an operator behind a value, since no blank follows a value. -/
theorem isChain_filter {customs : List String} {ts : List Token}
    (h : ts.IsChain (MayFollow customs)) (hne : ∀ t ∈ ts, t.kind ≠ .finish) :
    (ts.filter fun t => t.kind != .blank && t.kind != .finish).IsChain NoOperatorAfterValue := by
  induction ts with
  | nil => exact .nil
  | cons a ts ih =>
    obtain ⟨hhead, htail⟩ := List.isChain_cons.1 h
    have ih := ih htail fun t ht => hne t (by simp [ht])
    rw [List.filter_cons]
    split
    · refine List.isChain_cons.2 ⟨fun b hb hvalue op hop => ?_, ih⟩
      cases ts with
      | nil => cases hb
      | cons d ds =>
        obtain ⟨text, hd, hends⟩ := hhead d rfl
        rw [hvalue] at hd
        have hkind : (cut customs .plain text).kind ≠ .blank ∧
            ∀ op, (cut customs .plain text).kind ≠ .operator op :=
          kind_cutPlain_of_endsValue (hends hvalue)
        -- The token behind the value is kept, so it is the one in question.
        have hkept : (d.kind != .blank && d.kind != .finish) = true := by
          simp only [Bool.and_eq_true, bne_iff_ne]
          exact ⟨hd ▸ hkind.1, hne d (by simp)⟩
        rw [List.filter_cons, if_pos hkept] at hb
        cases hb
        exact hkind.2 op (hd ▸ hop)
    · exact ih

theorem isChain_sentence (customs : List String) (text : String) :
    (sentence customs text).IsChain NoOperatorAfterValue := by
  obtain ⟨pieces, last, hpieces, hlast, hne⟩ := scanFrom_eq_append customs (.start text)
  have hchain := isChain_scanFrom customs (.start text)
  rw [hpieces, List.map_append] at hchain
  have hsentence : sentence customs text =
      (pieces.map (·.1)).filter fun t => t.kind != .blank && t.kind != .finish := by
    simp [sentence, scan, hpieces, hlast]
  rw [hsentence]
  refine isChain_filter hchain.left_of_append fun t ht => ?_
  obtain ⟨p, hp, rfl⟩ := List.mem_map.1 ht
  exact hne p hp

/-! ## Well-formed trees are written and read back. -/

/-- Reading from one place to the other gives the tokens. -/
inductive Scans (customs : List String) : Cursor → List Token → Cursor → Prop
  | nil (cursor : Cursor) : Scans customs cursor [] cursor
  | cons {cursor cursor' : Cursor} {ts : List Token}
      (hfinish : (cursor.next customs).1.kind ≠ .finish)
      (h : Scans customs (cursor.next customs).2.2 ts cursor') :
      Scans customs cursor ((cursor.next customs).1 :: ts) cursor'

theorem Scans.append {customs : List String} {a b c : Cursor} {ts us : List Token}
    (h : Scans customs a ts b) (h' : Scans customs b us c) : Scans customs a (ts ++ us) c := by
  induction h with
  | nil => exact h'
  | cons hfinish _ ih => exact .cons hfinish (ih h')

/-- The tokens of a scan are the first ones that are found. -/
theorem Scans.map_scanFrom {customs : List String} {a b : Cursor} {ts : List Token}
    (h : Scans customs a ts b) :
    (scanFrom customs a).map (·.1) = ts ++ (scanFrom customs b).map (·.1) := by
  induction h with
  | nil => rfl
  | cons hfinish _ ih => rw [scanFrom, if_neg hfinish, List.map_cons, ih, List.cons_append]

/-- A piece that is cut off is scanned as one token. -/
theorem Scans.of_cut {customs : List String} {mode : Mode} {text : List Char} {piece : Piece}
    (h : cut customs mode text = piece) (hfinish : piece.kind ≠ .finish) (position : Nat) :
    ∃ t position', t.kind = piece.kind ∧ t.text = String.ofList piece.text ∧
      Scans customs ⟨mode, position, text⟩ [t] ⟨.after piece.kind, position', piece.rest⟩ := by
  subst h
  exact ⟨_, _, rfl, rfl, .cons hfinish (.nil _)⟩

/-- The text that follows a written expression is not taken for a part of it. -/
def Expr.EndsBefore : Expr → List Char → Prop
  | .logical _ _ right, rest => right.EndsBefore rest
  | .comparison _ _ right, rest => right.EndsBefore rest
  | .field _ none, rest => ∀ c ∈ rest.head?, isFieldChar c = false
  | .value _ false, rest => endsValue rest = true
  | _, _ => True

/-- Every expression ends before a text where values end. -/
theorem Expr.endsBefore_of_endsValue (e : Expr) {rest : List Char} (h : endsValue rest = true) :
    e.EndsBefore rest := by
  induction e with
  | logical left c right _ ih => exact ih
  | comparison left op right _ ih => exact ih
  | group inner _ => trivial
  | field name index =>
    cases index with
    | some key => trivial
    | none =>
      intro c hc
      cases rest with
      | nil => cases hc
      | cons d ds =>
        cases hc
        rcases endsValue_cons h with rfl | h
        · decide
        · exact isFieldChar_eq_false_of_isValueDelimiter h
  | value raw ignoreCase => cases ignoreCase <;> trivial

/-- An operand to which an operator may be added ends before the symbol of the operator. -/
theorem endsBefore_symbol {customs : List String}
    (hcustoms : ∀ name ∈ customs, isOperatorName name = true) {e : Expr}
    (he : WellFormed customs .operand e) (hcomparable : e.isComparable = true) {op : Operator}
    (hop : op.IsKnown customs) (rest : List Char) : e.EndsBefore (op.symbol.toList ++ rest) := by
  cases he with
  | primary he =>
    cases he with
    | group => trivial
    | @field name index =>
      cases index with
      | some key => trivial
      | none =>
        obtain ⟨c, hc, cs, hcs⟩ := exists_symbol_cons hcustoms hop
        rw [hcs]
        intro d hd
        cases hd
        exact isFieldChar_symbolStart c hc
  | comparison =>
    cases hcomparable
    trivial

/-- What is written for the mark of a value. -/
def writtenMark (ignoreCase : Bool) : List Char := if ignoreCase then ['/', 'i'] else []

theorem print_comparison (left : Expr) (op : Operator) (raw : String) (ignoreCase : Bool)
    (rest : List Char) :
    (Expr.comparison left op (.value raw ignoreCase)).print ++ rest =
      left.print ++
        (op.symbol.toList ++ (writtenValue op raw ++ (writtenMark ignoreCase ++ rest))) := by
  simp [Expr.print, writtenValue, writtenMark, separator]

theorem endsValue_mark {raw : String} {ignoreCase : Bool} {rest : List Char}
    (h : (Expr.value raw ignoreCase).EndsBefore rest) :
    endsValue (writtenMark ignoreCase ++ rest) = true := by
  cases ignoreCase with
  | true => rfl
  | false => exact h

theorem scans_value (customs : List String) (op : Operator) {raw : String} {ignoreCase : Bool}
    {rest : List Char} (h : (Expr.value raw ignoreCase).EndsBefore rest) (position : Nat) :
    ∃ ts position', Derives .value ts (.value raw ignoreCase) ∧
      Scans customs ⟨.value, position, writtenValue op raw ++ (writtenMark ignoreCase ++ rest)⟩ ts
        ⟨.plain, position', rest⟩ := by
  obtain ⟨v, place, hv, htext, hvalue⟩ :=
    Scans.of_cut (cut_value customs op raw (endsValue_mark h)) (by rintro ⟨⟩) position
  rw [String.ofList_toList] at htext
  cases ignoreCase with
  | false => exact ⟨[v], place, by simpa [htext] using Derives.value hv, hvalue⟩
  | true =>
    obtain ⟨m, position', hm, -, hmark⟩ := Scans.of_cut
      (cut_mark customs (by decide : Mode.plain ≠ .value) rest) (by rintro ⟨⟩) place
    exact ⟨[v, m], position', by simpa [htext] using Derives.marked hv hm, hvalue.append hmark⟩

theorem scans_field (customs : List String) {name : String} {index : Option String} (hne : name ≠ "")
    (hname : ∀ c ∈ name.toList, isFieldChar c = true) {rest : List Char}
    (hrest : (Expr.field name index).EndsBefore rest) (position : Nat) :
    ∃ ts mode position', mode ≠ .value ∧ Derives .primary ts (.field name index) ∧
      Scans customs ⟨.plain, position, (Expr.field name index).print ++ rest⟩ ts
        ⟨mode, position', rest⟩ := by
  have hplain : Mode.plain ≠ .value := by decide
  have hne : name.toList ≠ [] := by simpa using hne
  cases index with
  | none =>
    obtain ⟨t, position', hk, ht, hscan⟩ :=
      Scans.of_cut (cut_field customs hplain hne hname hrest) (by rintro ⟨⟩) position
    have hderives := Derives.field hk
    rw [ht, Piece.verbatim, String.ofList_toList] at hderives
    exact ⟨[t], .afterField, position', by decide, hderives, hscan⟩
  | some key =>
    have hbracket : ∀ c ∈ ('[' :: escapeIndex key.toList ++ ']' :: rest).head?,
        isFieldChar c = false := fun c hc => by
      cases hc
      decide
    obtain ⟨t, place, hk, ht, hname⟩ :=
      Scans.of_cut (cut_field customs hplain hne hname hbracket) (by rintro ⟨⟩) position
    -- Only directly behind a field is a bracket the beginning of an index.
    obtain ⟨i, position', hki, hti, hindex⟩ :=
      Scans.of_cut (cut_index customs key.toList rest) (by rintro ⟨⟩) place
    have hderives := Derives.indexed hk hki
    rw [ht, hti, Piece.verbatim, String.ofList_toList, String.ofList_toList] at hderives
    refine ⟨[t, i], .plain, position', hplain, hderives, ?_⟩
    simpa [Expr.print, Mode.after] using hname.append hindex

/-- A well-formed expression is scanned as the tokens of a derivation of it. -/
theorem scans_print {customs : List String}
    (hcustoms : ∀ name ∈ customs, isOperatorName name = true) {phrase : Phrase} {e : Expr}
    (h : WellFormed customs phrase e) (position : Nat) {rest : List Char}
    (hrest : e.EndsBefore rest) :
    ∃ ts mode position', mode ≠ .value ∧ Derives phrase ts e ∧
      Scans customs ⟨.plain, position, e.print ++ rest⟩ ts ⟨mode, position', rest⟩ := by
  have hplain : Mode.plain ≠ .value := by decide
  induction h generalizing position rest with
  | @field name index hne hname => exact scans_field customs hne hname hrest position
  | @group e _ ih =>
    -- A closing parenthesis ends whatever stands in front of it.
    obtain ⟨l, place, hl, -, hopen⟩ :=
      Scans.of_cut (cut_openParen customs hplain (e.print ++ ')' :: rest)) (by rintro ⟨⟩) position
    have hends : e.EndsBefore (')' :: rest) := e.endsBefore_of_endsValue rfl
    obtain ⟨ts, mode, place', hmode, hderives, hinner⟩ := ih place hends
    obtain ⟨r, position', hr, -, hclose⟩ :=
      Scans.of_cut (cut_closeParen customs hmode rest) (by rintro ⟨⟩) place'
    refine ⟨_, .plain, position', hplain, .group hl hderives hr, ?_⟩
    simpa [Expr.print, Mode.after, Piece.verbatim] using (hopen.append hinner).append hclose
  | primary _ ih =>
    obtain ⟨ts, mode, position', hmode, hderives, hscan⟩ := ih position hrest
    exact ⟨ts, mode, position', hmode, .primary hderives, hscan⟩
  | @comparison left op raw ignoreCase hleft hcomparable hop ih =>
    have hends := endsValue_mark hrest
    -- The left operand is comparable, so the symbol is not taken for a part of it.
    obtain ⟨ts, mode, place, hmode, hderives, hscanl⟩ :=
      ih position (endsBefore_symbol hcustoms hleft hcomparable hop _)
    have hnext := mayExtendBy_head?_written op raw hends
    obtain ⟨t, place', ht, -, hop⟩ :=
      Scans.of_cut (cut_operator hcustoms hmode hop hnext) (by rintro ⟨⟩) place
    obtain ⟨us, position', hright, hscanr⟩ := scans_value customs op hrest place'
    refine ⟨_, .plain, position', hplain, .comparison hderives ht hright, ?_⟩
    rw [print_comparison]
    exact hscanl.append (hop.append hscanr)
  | operand _ ih =>
    obtain ⟨ts, mode, position', hmode, hderives, hscan⟩ := ih position hrest
    exact ⟨ts, mode, position', hmode, .operand hderives, hscan⟩
  | @logical left right c _ _ ihl ihr =>
    have hends : endsValue (c.symbol :: (right.print ++ rest)) = true := by cases c <;> rfl
    obtain ⟨ts, mode, place, hmode, hleft, hscanl⟩ :=
      ihl position (left.endsBefore_of_endsValue hends)
    obtain ⟨t, place', ht, -, hconj⟩ :=
      Scans.of_cut (cut_conjunction customs hmode c (right.print ++ rest)) (by rintro ⟨⟩) place
    obtain ⟨us, mode', position', hmode', hright, hscanr⟩ := ihr place' hrest
    refine ⟨_, mode', position', hmode', .logical hleft ht hright, ?_⟩
    simpa [Expr.print] using hscanl.append (hconj.append hscanr)

/-- A derivation has only tokens that the reader does not skip. -/
theorem kind_of_derives {phrase : Phrase} {ts : List Token} {e : Expr} (h : Derives phrase ts e) :
    ∀ t ∈ ts, t.kind ≠ .bad ∧ t.kind ≠ .blank ∧ t.kind ≠ .finish := by
  induction h with
  | field ht => simp [ht]
  | indexed ht hi => simp [ht, hi]
  | group hl _ hr ih => simpa [or_imp, forall_and, hl, hr] using ih
  | primary _ ih => exact ih
  | comparison _ ht _ ihl ihr =>
    exact List.forall_mem_append.2 ⟨ihl, List.forall_mem_cons.2 ⟨by simp [ht], ihr⟩⟩
  | value hv => simp [hv]
  | marked hv hm => simp [hv, hm]
  | operand _ ih => exact ih
  | logical _ ht _ ihl ihr =>
    exact List.forall_mem_append.2 ⟨ihl, List.forall_mem_cons.2 ⟨by simp [ht], ihr⟩⟩

/-- A well-formed filter is read back from its text. -/
theorem parse_text {customs : List String}
    (hcustoms : ∀ name ∈ customs, isOperatorName name = true) {e : Expr}
    (h : WellFormed customs .filter e) : parse customs e.text = ⟨e, []⟩ := by
  have hends : e.EndsBefore [] := e.endsBefore_of_endsValue rfl
  obtain ⟨ts, mode, position, hmode, hderives, hscan⟩ := scans_print hcustoms h 0 hends
  have hstart : Cursor.start e.text = ⟨.plain, 0, e.print ++ []⟩ := by
    simp [Cursor.start, Expr.text]
  -- At the end of the text there is nothing left but the token that says so.
  obtain ⟨last, hlast, hfinish⟩ : ∃ last : Token, last.kind = .finish ∧
      (scanFrom customs ⟨mode, position, []⟩).map (·.1) = [last] :=
    ⟨⟨.finish, position, ""⟩, rfl, by rw [scanFrom_nil customs hmode]; rfl⟩
  have htokens : (scan customs e.text).1 = ts ++ [last] := by
    rw [scan, hstart, hscan.map_scanFrom, hfinish]
  have hkinds := kind_of_derives hderives
  have hclean : isClean customs e.text = true := by
    simpa [isClean, htokens, hlast] using fun t ht => (hkinds t ht).1
  have hsentence : sentence customs e.text = ts := by
    simpa [sentence, htokens, hlast, List.filter_append] using fun t ht => (hkinds t ht).2
  exact parse_eq_iff.2 ⟨hclean, hsentence ▸ hderives⟩

/-- The trees that are read without diagnostics are the well-formed ones, and each of them is read
back from its own text. -/
theorem parse_image (r : OperatorRegistry) :
    (∀ text, (parse r.names text).isValid = true →
      WellFormed r.names .filter (parse r.names text).root) ∧
    ∀ e, WellFormed r.names .filter e → parse r.names e.text = ⟨e, []⟩ := by
  constructor
  · intro text hvalid
    have hd : (parse r.names text).diagnostics = [] := List.isEmpty_iff.1 hvalid
    have hparse : parse r.names text = ⟨(parse r.names text).root, []⟩ := by rw [← hd]
    exact wellFormed_of_derives (parse_eq_iff.1 hparse).2 (by decide) (sentence_fits _ _)
      (isChain_sentence _ _)
  · have hcustoms : ∀ name ∈ r.names, isOperatorName name = true :=
      fun name hname => r.isOperatorName_of_mem_names hname
    exact fun e h => parse_text hcustoms h

/-- Two operators, the name of one of which begins the name of the other. -/
def insideOperators : OperatorRegistry where
  operators := [⟨"#in", fun _ _ => true, none⟩, ⟨"#inside", fun _ _ => true, none⟩]
  ascending := by decide
  named := by decide

/-- A filter with a value that would extend the name of the operator and end early. -/
def insideFilter : Expr :=
  .comparison (.field "tag" (some "a]b")) (.custom "#in") (.value "side/i)" false)

theorem wellFormed_insideFilter : WellFormed insideOperators.names .filter insideFilter := by
  have hname : "tag".toList.all isFieldChar = true := by decide
  have hfield : WellFormed insideOperators.names .primary (.field "tag" (some "a]b")) :=
    .field (by decide) (List.all_eq_true.1 hname)
  exact .operand (.comparison (.primary hfield) rfl (.inr ⟨"#in", by decide, rfl⟩))

theorem parse_image_insideFilter :
    parse insideOperators.names insideFilter.text = ⟨insideFilter, []⟩ ∧
      WellFormed insideOperators.names .filter
        (parse insideOperators.names insideFilter.text).root := by
  have hread := (parse_image insideOperators).2 insideFilter wellFormed_insideFilter
  exact ⟨hread, (parse_image insideOperators).1 insideFilter.text (by rw [hread]; rfl)⟩

end FilterQuery
