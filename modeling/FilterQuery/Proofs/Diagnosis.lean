import FilterQuery.Proofs.ParseCorrect
import FilterQuery.Proofs.TokenTiling

/-!
# What is reported of a text

However malformed a text is, its operators and values come in pairs, since the text behind an
operator is always read as a value, and nothing else is. So a reading that has taken an operator
finds the value, and there is always a token left to take: the end of the text, if nothing else,
where every reading stops. What it reports is therefore about tokens of the text, in their order.

## Key results

- `isPaired_scan`: what stands next to operators, values and indexes
- `Reading.neverLacks_of_isPaired`: a reading never lacks a token, nor a value
- `Reading.exists_reports_run`: a reading reports tokens in their order
- `Reading.ComparesValues.run`: a reading compares with values only
- `parse_diagnoses`: what is known of the reading of any text
-/

namespace FilterQuery

/-! ## Neighbours of tokens. -/

/-- Whether each operator stands directly in front of a value and each value directly behind an
operator, and each index directly behind a field. -/
structure IsPaired (tokens : List Token) : Prop where
  operator : ∀ before t op after, tokens = before ++ t :: after → t.kind = .operator op →
    ∃ v others, after = v :: others ∧ v.kind = .value
  value : ∀ before v after, tokens = before ++ v :: after → v.kind = .value →
    ∃ others t op, before = others ++ [t] ∧ t.kind = .operator op
  index : ∀ before i after, tokens = before ++ i :: after → i.kind = .index →
    ∃ others t, before = others ++ [t] ∧ t.kind = .field

variable {customs : List String}

/-- Where no value is expected there is none, indexes are found only behind fields, and what is
wrong with a piece is not that something else was expected. -/
theorem cutPlain_finds (customs : List String) (afterField : Bool) (text : List Char) :
    (cutPlain customs afterField text).kind ≠ .value ∧
      ((cutPlain customs afterField text).kind = .index → afterField = true) ∧
      ∀ found expected,
        (cutPlain customs afterField text).problem ≠ some (.unexpected found expected) := by
  unfold cutPlain
  split
  case h_7 =>
    split
    · simp [Piece.verbatim]
    · split
      · rename_i hbracket
        unfold cutIndexPiece
        split <;> simp [hbracket.2]
      · unfold cutWord
        split
        · simp
        · split <;> simp [Piece.verbatim]
  all_goals simp [Piece.verbatim]

theorem kind_cut_eq_value_iff {mode : Mode} {text : List Char} :
    (cut customs mode text).kind = .value ↔ mode = .value := by
  cases mode with
  | value => exact iff_of_true rfl rfl
  | plain => exact iff_of_false (cutPlain_finds customs false text).1 (by simp)
  | afterField => exact iff_of_false (cutPlain_finds customs true text).1 (by simp)

theorem eq_afterField_of_kind_cut {mode : Mode} {text : List Char}
    (h : (cut customs mode text).kind = .index) : mode = .afterField := by
  cases mode with
  | value => simp [cut, cutValuePiece] at h
  | plain => simpa using (cutPlain_finds customs false text).2.1 h
  | afterField => rfl

/-- What is wrong with a token is not that something else was expected. -/
theorem problem_ne_unexpected_of_mem_scan {text : String} {d : Diagnostic}
    (h : d ∈ (scan customs text).2) (found : TokenKind) (expected : Expectation) :
    d.problem ≠ .unexpected found expected := by
  obtain ⟨p, hp, hd⟩ := List.mem_filterMap.1 h
  obtain ⟨cursor, rfl⟩ := exists_of_mem_scanFrom hp
  obtain ⟨problem, hproblem, rfl⟩ := Option.map_eq_some_iff.1 hd
  rintro rfl
  cases hmode : cursor.mode with
  | value => simp [hmode, cut, cutValuePiece] at hproblem
  | plain =>
    rw [hmode] at hproblem
    exact (cutPlain_finds customs false cursor.rest).2.2 found expected hproblem
  | afterField =>
    rw [hmode] at hproblem
    exact (cutPlain_finds customs true cursor.rest).2.2 found expected hproblem

theorem Mode.after_eq_value_iff {kind : TokenKind} :
    Mode.after kind = .value ↔ ∃ op, kind = .operator op := by
  cases kind <;> simp [after]

theorem Mode.after_eq_afterField_iff {kind : TokenKind} :
    Mode.after kind = .afterField ↔ kind = .field := by
  cases kind <;> simp [after]

/-- Behind operators are values, behind other tokens are none. -/
theorem MayFollow.kind_eq_value_iff {a b : Token} (h : MayFollow customs a b) :
    b.kind = .value ↔ ∃ op, a.kind = .operator op := by
  obtain ⟨text, hkind, -⟩ := h
  rw [hkind, kind_cut_eq_value_iff, Mode.after_eq_value_iff]

theorem MayFollow.kind_eq_field {a b : Token} (h : MayFollow customs a b)
    (hindex : b.kind = .index) : a.kind = .field := by
  obtain ⟨text, hkind, -⟩ := h
  exact Mode.after_eq_afterField_iff.1 (eq_afterField_of_kind_cut (hkind.symm.trans hindex))

/-- Of tokens that may follow each other, the ones in question have the neighbours they need, if the
first token is none of them and the last one is no operator. -/
theorem isPaired_of_isChain {tokens : List Token} (hchain : tokens.IsChain (MayFollow customs))
    (hfirst : ∀ t ∈ tokens.head?, t.kind ≠ .value ∧ t.kind ≠ .index)
    (hlast : ∀ t ∈ tokens.getLast?, ∀ op, t.kind ≠ .operator op) : IsPaired tokens := by
  rw [List.isChain_iff_forall_rel_of_append_cons_cons] at hchain
  have hbehind : ∀ before t after, tokens = before ++ t :: after →
      t.kind = .value ∨ t.kind = .index →
      ∃ others u, before = others ++ [u] ∧ MayFollow customs u t := by
    intro before t after htokens hkind
    rcases List.eq_nil_or_concat before with rfl | ⟨others, u, rfl⟩
    · have := hfirst t (by simp [htokens])
      exact absurd hkind (not_or.2 this)
    · exact ⟨others, u, List.concat_eq_append, hchain (by simpa using htokens)⟩
  constructor
  case operator =>
    intro before t op after htokens hop
    cases after with
    | nil => exact absurd hop (hlast t (by simp [htokens]) op)
    | cons v others => exact ⟨v, others, rfl, (hchain htokens).kind_eq_value_iff.2 ⟨op, hop⟩⟩
  case value =>
    intro before v after htokens hv
    obtain ⟨others, t, hbefore, hfollow⟩ := hbehind before v after htokens (.inl hv)
    obtain ⟨op, hop⟩ := hfollow.kind_eq_value_iff.1 hv
    exact ⟨others, t, op, hbefore, hop⟩
  case index =>
    intro before i after htokens hi
    obtain ⟨others, t, hbefore, hfollow⟩ := hbehind before i after htokens (.inr hi)
    exact ⟨others, t, hbefore, hfollow.kind_eq_field hi⟩

/-- The tokens of every text have the neighbours they need. -/
theorem isPaired_scan (customs : List String) (text : String) :
    IsPaired (scan customs text).1 := by
  refine isPaired_of_isChain (isChain_scanFrom customs (.start text)) ?_ ?_
  · intro t ht
    -- The first token is cut off where neither a value nor an index is expected.
    have hkind : t.kind = (cut customs .plain text.toList).kind := by
      simp only [scan] at ht
      rw [scanFrom] at ht
      split at ht <;> · cases ht; rfl
    rw [hkind]
    refine ⟨fun hvalue => ?_, fun hindex => ?_⟩
    · cases kind_cut_eq_value_iff.1 hvalue
    · cases eq_afterField_of_kind_cut hindex
  · intro t ht op hop
    obtain ⟨pieces, last, hpieces, hlast, -⟩ := scanFrom_eq_append customs (.start text)
    obtain rfl : last.1 = t := by simpa [scan, hpieces] using ht
    simp [hlast] at hop

theorem exists_of_filter_eq {α : Type} {p : α → Bool} {xs before after : List α} {x : α}
    (h : xs.filter p = before ++ x :: after) :
    ∃ before' after', xs = before' ++ x :: after' ∧ before'.filter p = before ∧
      after'.filter p = after := by
  obtain ⟨front, back, rfl, hfront, hback⟩ := List.filter_eq_append_iff.1 h
  obtain ⟨between, after', rfl, hbetween, hx, hafter⟩ := List.filter_eq_cons_iff.1 hback
  refine ⟨front ++ between, after', by simp, ?_, hafter⟩
  rw [List.filter_append, hfront, List.filter_eq_nil_iff.2 (by simpa using hbetween),
    List.append_nil]

/-- Leaving out tokens that play no part in the grammar leaves the neighbours where they are. -/
theorem IsPaired.filter {tokens : List Token} (h : IsPaired tokens) :
    IsPaired (tokens.filter fun t => !t.kind.isSkipped) where
  operator before t op after htokens hop := by
    obtain ⟨before', after', heq, -, rfl⟩ := exists_of_filter_eq htokens
    obtain ⟨v, others, rfl, hv⟩ := h.operator before' t op after' heq hop
    exact ⟨v, _, List.filter_cons_of_pos (by simp [hv, TokenKind.isSkipped]), hv⟩
  value before v after htokens hv := by
    obtain ⟨before', after', heq, rfl, -⟩ := exists_of_filter_eq htokens
    obtain ⟨others, t, op, rfl, hop⟩ := h.value before' v after' heq hv
    refine ⟨others.filter fun t => !t.kind.isSkipped, t, op, ?_, hop⟩
    simp [hop, TokenKind.isSkipped]
  index before i after htokens hi := by
    obtain ⟨before', after', heq, rfl, -⟩ := exists_of_filter_eq htokens
    obtain ⟨others, t, rfl, ht⟩ := h.index before' i after' heq hi
    refine ⟨others.filter fun t => !t.kind.isSkipped, t, ?_, ht⟩
    simp [ht, TokenKind.isSkipped]

namespace Reading

/-! ## No reading lacks a token. -/

/-- The state of a reading behind the tokens, unless it stops at one of them. -/
def after? (s : Reading) (ts : List Token) : Option Reading :=
  ts.foldlM (fun s t => (s.step t).getLeft?) s

/-- Whether a reading of the tokens never comes to where no token is left, nor to a token other than
a value where a value has to follow. -/
def NeverLacks (s : Reading) (ts : List Token) : Prop :=
  ∀ taken rest s', ts = taken ++ rest → s.after? taken = some s' →
    ∃ t others, rest = t :: others ∧ ¬s'.LacksValue t

/-- Behind the tokens and one more is the state that this one leads to. -/
theorem after?_concat {s s' : Reading} {ts : List Token} {t : Token} :
    s.after? (ts ++ [t]) = some s' ↔ ∃ r, s.after? ts = some r ∧ r.step t = .inl s' := by
  simp [after?, Option.bind_eq_some_iff]

/-- Only an operator makes a value necessary. -/
theorem kind_of_afterOperand {s s' : Reading} {e : Expr} {t : Token}
    (h : s.afterOperand e t = .inl s') {left : Expr} {op : Operator}
    (hfocus : s'.focus = .compared left op) : t.kind = .operator op := by
  unfold afterOperand at h
  split at h
  · cases h
    cases hfocus
    assumption
  · cases h
    cases hfocus
  · split at h <;> cases h
    cases hfocus
  · cases h

theorem kind_of_afterValue {s s' : Reading} {left' : Expr} {op' : Operator} {raw : String}
    {t : Token} (h : s.afterValue left' op' raw t = .inl s') {left : Expr} {op : Operator}
    (hfocus : s'.focus = .compared left op) : t.kind = .operator op := by
  unfold afterValue at h
  split at h
  · cases h
    cases hfocus
  · exact kind_of_afterOperand h hfocus

theorem kind_of_step {s s' : Reading} {t : Token} (h : s.step t = .inl s') {left : Expr}
    {op : Operator} (hfocus : s'.focus = .compared left op) : t.kind = .operator op := by
  unfold step at h
  split at h
  · rename_i hf
    split at h
    · cases h
      -- A group begins where an operand has to.
      cases hf.symm.trans hfocus
    · cases h
      cases hfocus
    · exact kind_of_afterOperand h hfocus
  · split at h
    · cases h
      cases hfocus
    · exact kind_of_afterOperand h hfocus
  · exact kind_of_afterOperand h hfocus
  · split at h
    · cases h
      cases hfocus
    · exact kind_of_afterValue h hfocus
  · exact kind_of_afterValue h hfocus

/-- A reading of tokens in which values stand behind operators, up to the end of the text, never
lacks one. -/
theorem neverLacks_of_isPaired {s : Reading} (hs : ∀ left op, s.focus ≠ .compared left op)
    {ts : List Token} {last : Token} (hpaired : IsPaired (ts ++ [last]))
    (hlast : last.kind = .finish) : s.NeverLacks (ts ++ [last]) := by
  intro taken rest s' hsplit hafter
  cases rest with
  | nil =>
    -- The end of the text is not taken: there a reading stops.
    rw [List.append_nil] at hsplit
    rw [← hsplit, after?_concat] at hafter
    obtain ⟨r, -, hstep⟩ := hafter
    obtain ⟨tree, htree⟩ := r.step_finish hlast
    cases hstep.symm.trans htree
  | cons t others =>
    refine ⟨t, others, rfl, ?_⟩
    rintro ⟨⟨left, op, hfocus⟩, hvalue⟩
    rcases List.eq_nil_or_concat taken with rfl | ⟨before, u, rfl⟩
    · cases hafter
      exact hs left op hfocus
    · rw [List.concat_eq_append] at hsplit hafter
      obtain ⟨r, -, hstep⟩ := after?_concat.1 hafter
      obtain ⟨v, vs, heq, hv⟩ := hpaired.operator before u op (t :: others) (by simpa using hsplit)
        (kind_of_step hstep hfocus)
      cases heq
      exact hvalue hv

theorem NeverLacks.tail {s s' : Reading} {t : Token} {ts : List Token} (h : s.NeverLacks (t :: ts))
    (hstep : s.step t = .inl s') : s'.NeverLacks ts := by
  intro taken rest r hsplit hafter
  refine h (t :: taken) rest r (by rw [hsplit, List.cons_append]) ?_
  simpa [after?, hstep] using hafter

/-! ## What a reading reports. -/

/-- A reading that never lacks a token reports tokens in their order, and misses no value. -/
theorem exists_reports_run {s : Reading} {ts : List Token} (h : s.NeverLacks ts)
    (hascending : (ts.map (·.position)).Pairwise (· ≤ ·)) :
    ∃ added, (s.run ts).diagnostics = s.diagnostics ++ added ∧
      (∀ d ∈ added, ∃ t ∈ ts, ∃ expected, expected ≠ .value ∧
        d = ⟨.unexpected t.kind expected, t.position⟩) ∧
      (added.map (·.position)).Pairwise (· ≤ ·) := by
  induction ts generalizing s with
  | nil =>
    obtain ⟨t, others, hnone, -⟩ := h [] [] s rfl rfl
    cases hnone
  | cons t ts ih =>
    obtain ⟨_, _, heq, hvalue⟩ := h [] (t :: ts) s rfl rfl
    cases heq
    obtain ⟨added, houtcome, hadded⟩ := reports_step s t
    have habout : ∀ d ∈ added, ∃ expected, expected ≠ .value ∧
        d = ⟨.unexpected t.kind expected, t.position⟩ := fun d hd =>
      (hadded d hd).imp fun _ => And.imp_left fun hlacks heq => hvalue (hlacks heq)
    have hposition : ∀ d ∈ added, d.position = t.position := fun d hd => by
      obtain ⟨_, -, rfl⟩ := hadded d hd
      rfl
    have hsame : (added.map (·.position)).Pairwise (· ≤ ·) := by
      refine List.pairwise_map.2 (List.pairwise_of_forall_mem_list fun d hd d' hd' => ?_)
      rw [hposition d hd, hposition d' hd']
    unfold run
    cases hstep : s.step t with
    | inr tree =>
      rw [hstep] at houtcome
      exact ⟨added, houtcome, fun d hd => ⟨t, by simp, habout d hd⟩, hsame⟩
    | inl s' =>
      rw [hstep] at houtcome
      rw [List.map_cons, List.pairwise_cons] at hascending
      obtain ⟨more, hmore, hall, hlater⟩ := ih (h.tail hstep) hascending.2
      refine ⟨added ++ more, ?_, ?_, ?_⟩
      · rw [hmore, ← List.append_assoc]
        exact congrArg (· ++ more) houtcome
      · refine List.forall_mem_append.2 ⟨fun d hd => ⟨t, by simp, habout d hd⟩, fun d hd => ?_⟩
        obtain ⟨u, hu, hd⟩ := hall d hd
        exact ⟨u, by simp [hu], hd⟩
      · -- What is reported later is about tokens further on.
        rw [List.map_append, List.pairwise_append]
        refine ⟨hsame, hlater, ?_⟩
        simp only [List.mem_map]
        rintro _ ⟨d, hd, rfl⟩ _ ⟨d', hd', rfl⟩
        obtain ⟨u, hu, _, -, rfl⟩ := hall d' hd'
        rw [hposition d hd]
        exact hascending.1 _ (List.mem_map_of_mem hu)

end Reading

/-! ## Comparisons are with values. -/

/-- Whether each comparison in the expression is one with a value. -/
def Expr.ComparesValues : Expr → Prop
  | .logical left _ right => left.ComparesValues ∧ right.ComparesValues
  | .comparison left _ right =>
    left.ComparesValues ∧ ∃ raw ignoreCase, right = .value raw ignoreCase
  | .group inner => inner.ComparesValues
  | .field _ _ | .value _ _ => True

/-- Whether each comparison in what waits for an operand is one with a value. -/
def Pending.ComparesValues : Pending → Prop
  | none => True
  | some (left, _) => left.ComparesValues

/-- Whether each comparison in the operand at hand is one with a value. -/
def Focus.ComparesValues : Focus → Prop
  | .complete e | .compared e _ | .valued e _ _ => e.ComparesValues
  | .operand | .named _ => True

theorem Pending.ComparesValues.join {pending : Pending} {e : Expr} (h : pending.ComparesValues)
    (he : e.ComparesValues) : (pending.join e).ComparesValues := by
  cases pending with
  | none => exact he
  | some waiting => exact ⟨h, he⟩

namespace Reading

/-- Whether each comparison that has been read is one with a value. -/
structure ComparesValues (s : Reading) : Prop where
  outer : ∀ pending ∈ s.outer, pending.ComparesValues
  pending : s.pending.ComparesValues
  focus : s.focus.ComparesValues

theorem comparesValues_stop (t : Token) (diagnostics : List Diagnostic) {outer : List Pending}
    {pending : Pending} {e : Expr} (houter : ∀ outside ∈ outer, outside.ComparesValues)
    (hpending : pending.ComparesValues) (he : e.ComparesValues) :
    (stop t diagnostics outer pending e).root.ComparesValues := by
  induction outer generalizing diagnostics pending e with
  | nil => exact hpending.join he
  | cons outside outer ih =>
    rw [List.forall_mem_cons] at houter
    refine ih _ houter.2 houter.1 ?_
    exact hpending.join he

variable {s : Reading}

theorem ComparesValues.afterOperand (h : s.ComparesValues) {e : Expr} (he : e.ComparesValues)
    (t : Token) :
    (s.afterOperand e t).elim Reading.ComparesValues (·.root.ComparesValues) := by
  unfold Reading.afterOperand
  split
  · exact ⟨h.outer, h.pending, he⟩
  · refine ⟨h.outer, ?_, trivial⟩
    exact h.pending.join he
  · split
    · rename_i outside outer houter
      have hall := h.outer
      rw [houter, List.forall_mem_cons] at hall
      refine ⟨hall.2, hall.1, ?_⟩
      exact h.pending.join he
    · exact comparesValues_stop _ _ h.outer h.pending he
  · exact comparesValues_stop _ _ h.outer h.pending he

theorem ComparesValues.afterValue (h : s.ComparesValues) {left : Expr}
    (hleft : left.ComparesValues) (op : Operator) (raw : String) (t : Token) :
    (s.afterValue left op raw t).elim Reading.ComparesValues (·.root.ComparesValues) := by
  unfold Reading.afterValue
  split
  · exact ⟨h.outer, h.pending, hleft, raw, true, rfl⟩
  · have he : (Expr.comparison left op (.value raw false)).ComparesValues :=
      ⟨hleft, raw, false, rfl⟩
    exact h.afterOperand he t

/-- A step that goes on or stops has read comparisons with values only. -/
theorem ComparesValues.step (h : s.ComparesValues) (t : Token) :
    (s.step t).elim Reading.ComparesValues (·.root.ComparesValues) := by
  have hreport : ∀ expected, (s.report t expected).ComparesValues :=
    fun _ => ⟨h.outer, h.pending, h.focus⟩
  unfold Reading.step
  cases hfocus : s.focus with
  | operand =>
    dsimp only
    split
    · exact ⟨List.forall_mem_cons.2 ⟨h.pending, h.outer⟩, trivial, trivial⟩
    · exact ⟨h.outer, h.pending, trivial⟩
    · have he : (Expr.field "" none).ComparesValues := trivial
      exact (hreport _).afterOperand he t
  | named name =>
    dsimp only
    split
    · exact ⟨h.outer, h.pending, trivial⟩
    · have he : (Expr.field name none).ComparesValues := trivial
      exact h.afterOperand he t
  | complete e =>
    have he := h.focus
    rw [hfocus] at he
    exact h.afterOperand he t
  | compared left op =>
    have hleft := h.focus
    rw [hfocus] at hleft
    dsimp only
    split
    · exact ⟨h.outer, h.pending, hleft⟩
    · exact (hreport _).afterValue hleft op "" t
  | valued left op raw =>
    have hleft := h.focus
    rw [hfocus] at hleft
    exact h.afterValue hleft op raw t

theorem ComparesValues.run (h : s.ComparesValues) (ts : List Token) :
    (s.run ts).root.ComparesValues := by
  induction ts generalizing s with
  | nil =>
    have hstep := h.step ⟨.finish, 0, ""⟩
    obtain ⟨tree, htree⟩ := s.step_finish (t := ⟨.finish, 0, ""⟩) rfl
    rw [htree] at hstep
    rw [Reading.run, htree]
    exact hstep
  | cons t ts ih =>
    have hstep := h.step t
    unfold Reading.run
    cases hs : s.step t with
    | inl s' =>
      rw [hs] at hstep
      exact ih hstep
    | inr tree =>
      rw [hs] at hstep
      exact hstep

end Reading

/-! ## Texts. -/

/-- Of any text, whatever names custom operators have, operators and values come in pairs and
indexes behind fields. The reader never comes to where no token is left, nor to a token other than a
value where a value has to follow, so that no value is ever reported as missing. All comparisons
that it reads are ones with values. What it reports comes behind what is wrong with the tokens, and
is about tokens in their order. -/
theorem parse_diagnoses (customs : List String) (text : String) :
    IsPaired (scan customs text).1 ∧
    Reading.NeverLacks { diagnostics := (scan customs text).2 }
      ((scan customs text).1.filter fun t => !t.kind.isSkipped) ∧
    (parse customs text).root.ComparesValues ∧
    (∀ d ∈ (parse customs text).diagnostics, ∀ found, d.problem ≠ .unexpected found .value) ∧
    ∃ added, (parse customs text).diagnostics = (scan customs text).2 ++ added ∧
      (∀ d ∈ added, ∃ t ∈ (scan customs text).1, d.position = t.position) ∧
      (added.map (·.position)).Pairwise (· ≤ ·) := by
  have hpaired := isPaired_scan customs text
  obtain ⟨pieces, last, hpieces, hlast, -⟩ := scanFrom_eq_append customs (.start text)
  have hkept : ((scan customs text).1.filter fun t => !t.kind.isSkipped) =
      ((pieces.map (·.1)).filter fun t => !t.kind.isSkipped) ++ [last.1] := by
    simp [scan, hpieces, hlast, TokenKind.isSkipped]
  have hnever : Reading.NeverLacks { diagnostics := (scan customs text).2 }
      ((scan customs text).1.filter fun t => !t.kind.isSkipped) := by
    have hfiltered := hpaired.filter
    rw [hkept] at hfiltered ⊢
    exact Reading.neverLacks_of_isPaired (fun _ _ hfocus => by cases hfocus) hfiltered hlast
  have hstart : (Cursor.start text).LiesIn text.toList := ⟨Nat.zero_le _, rfl⟩
  have hascending : ((scan customs text).1.map (·.position)).Pairwise (· ≤ ·) :=
    (isTokenization_scanFrom customs hstart).ascending
  obtain ⟨added, hadded, habout, hsorted⟩ := Reading.exists_reports_run hnever
    (hascending.sublist (List.filter_sublist.map _))
  refine ⟨hpaired, hnever, ?_, fun d hd found hfound => ?_, added, hadded, fun d hd => ?_, hsorted⟩
  · have hcompares : Reading.ComparesValues { diagnostics := (scan customs text).2 } :=
      ⟨by simp, trivial, trivial⟩
    exact hcompares.run _
  · rw [parse, hadded] at hd
    rcases List.mem_append.1 hd with hd | hd
    · exact problem_ne_unexpected_of_mem_scan hd found .value hfound
    · obtain ⟨t, -, expected, hexpected, rfl⟩ := habout d hd
      cases hfound
      exact hexpected rfl
  · obtain ⟨t, ht, expected, -, rfl⟩ := habout d hd
    exact ⟨t, (List.mem_filter.1 ht).1, rfl⟩

end FilterQuery
