import FilterQuery.Proofs.Grammar
import FilterQuery.Proofs.ScanTokens
import FilterQuery.Operators

/-!
# The reader accepts exactly its grammar

While a filter is read without diagnostics, the tokens taken so far fall into three parts: those up
to the parentheses of the open groups, those that wait for a right operand, and those of the operand
at hand. `Reads s ts` states this for a state `s` and the tokens `ts`; `reads_step` shows that a
step keeps it, so that a reading without diagnostics ends with a derivation.

## Key results

- `derives_of_run`: what is read without diagnostics is derivable
- `parse_eq_iff`: a text is read as a tree without diagnostics iff it has no bad token and its
  tokens derive the tree
-/

namespace FilterQuery

/-! ## What a state has read. -/

/-- The tokens that wait for a right operand, with their conjunction. -/
inductive Waiting : Pending → List Token → Prop
  | nothing : Waiting none []
  | left {ts : List Token} {e : Expr} {t : Token} {c : Conjunction} (h : Derives .filter ts e)
      (ht : t.kind = .conjunction c) : Waiting (some (e, c)) (ts ++ [t])

/-- The tokens up to the parenthesis of the innermost open group. -/
inductive Opened : List Pending → List Token → Prop
  | nothing : Opened [] []
  | group {outer : List Pending} {pending : Pending} {ts us : List Token} {t : Token}
      (houter : Opened outer ts) (hpending : Waiting pending us) (ht : t.kind = .openParen) :
      Opened (pending :: outer) (ts ++ us ++ [t])

/-- The tokens of the operand at hand. -/
inductive Focused : Focus → List Token → Prop
  | operand : Focused .operand []
  | named {t : Token} (ht : t.kind = .field) : Focused (.named t.text) [t]
  | complete {ts : List Token} {e : Expr} (h : Derives .operand ts e) : Focused (.complete e) ts
  | compared {ts : List Token} {e : Expr} {t : Token} {op : Operator} (h : Derives .operand ts e)
      (ht : t.kind = .operator op) : Focused (.compared e op) (ts ++ [t])
  | valued {ts : List Token} {e : Expr} {t v : Token} {op : Operator} (h : Derives .operand ts e)
      (ht : t.kind = .operator op) (hv : v.kind = .value) :
      Focused (.valued e op v.text) (ts ++ [t, v])

/-- An operand completes what waits for it. -/
theorem Waiting.derives {pending : Pending} {ts us : List Token} {e : Expr}
    (h : Waiting pending ts) (he : Derives .operand us e) :
    Derives .filter (ts ++ us) (pending.join e) := by
  cases h with
  | nothing => exact .operand he
  | left hleft ht =>
    rw [List.append_assoc]
    exact .logical hleft ht he

theorem Focused.derives {focus : Focus} {ts : List Token} {e : Expr} (h : Focused focus ts)
    (he : focus.operand? = some e) : Derives .operand ts e := by
  cases h with
  | operand => cases he
  | compared => cases he
  | named ht =>
    cases he
    exact .primary (.field ht)
  | complete h =>
    cases he
    exact h
  | valued h ht hv =>
    cases he
    exact .comparison h ht (.value hv)

namespace Reading

/-- The tokens that a state has taken, in three parts. -/
def Reads (s : Reading) (ts : List Token) : Prop :=
  ∃ as bs cs, ts = as ++ bs ++ cs ∧ Opened s.outer as ∧ Waiting s.pending bs ∧
    Focused s.focus cs

/-! ## What a step reports. -/

/-- Whether diagnostics are added to those before, all of them about the token, in whose place
something else was expected. -/
def Reports (t : Token) (expects : Expectation → Prop) (before after : List Diagnostic) : Prop :=
  ∃ added, after = before ++ added ∧
    ∀ d ∈ added, ∃ expected, expects expected ∧ d = ⟨.unexpected t.kind expected, t.position⟩

namespace Reports

variable {t : Token} {P Q : Expectation → Prop} {before between after : List Diagnostic}

theorem isPrefix (h : Reports t P before after) : before <+: after := by
  obtain ⟨added, rfl, -⟩ := h
  exact List.prefix_append _ _

theorem refl (t : Token) (P : Expectation → Prop) (ds : List Diagnostic) : Reports t P ds ds :=
  ⟨[], by simp, by simp⟩

theorem single {expected : Expectation} (h : P expected) (t : Token) (ds : List Diagnostic) :
    Reports t P ds (ds ++ [⟨.unexpected t.kind expected, t.position⟩]) :=
  ⟨_, rfl, fun _ hd => ⟨expected, h, List.mem_singleton.1 hd⟩⟩

theorem trans (h : Reports t P before between) (h' : Reports t P between after) :
    Reports t P before after := by
  obtain ⟨added, hbetween, hadded⟩ := h
  obtain ⟨more, hafter, hmore⟩ := h'
  exact ⟨added ++ more, by rw [hafter, hbetween, List.append_assoc],
    List.forall_mem_append.2 ⟨hadded, hmore⟩⟩

theorem mono (h : Reports t P before after) (hPQ : ∀ expected, P expected → Q expected) :
    Reports t Q before after := by
  obtain ⟨added, hafter, hadded⟩ := h
  exact ⟨added, hafter, fun d hd => (hadded d hd).imp fun _ => And.imp_left (hPQ _)⟩

end Reports

theorem reports_stop (t : Token) (diagnostics : List Diagnostic) (outer : List Pending)
    (pending : Pending) (e : Expr) :
    Reports t (· ≠ .value) diagnostics (stop t diagnostics outer pending e).diagnostics := by
  induction outer generalizing diagnostics pending e with
  | nil =>
    unfold stop
    split
    · exact .refl _ _ _
    · exact .single (by simp) _ _
  | cons outside outer ih => exact .trans (.single (by simp) _ _) (ih _ _ _)

/-- The diagnostics after a step, whether the reading goes on or not. -/
def outcome (result : Reading ⊕ FilterTree) : List Diagnostic :=
  result.elim (·.diagnostics) (·.diagnostics)

theorem reports_afterOperand (s : Reading) (e : Expr) (t : Token) :
    Reports t (· ≠ .value) s.diagnostics (outcome (s.afterOperand e t)) := by
  unfold afterOperand
  split
  · exact .refl _ _ _
  · exact .refl _ _ _
  · split
    · exact .refl _ _ _
    · exact reports_stop _ _ _ _ _
  · exact reports_stop _ _ _ _ _

theorem reports_afterValue (s : Reading) (left : Expr) (op : Operator) (raw : String) (t : Token) :
    Reports t (· ≠ .value) s.diagnostics (outcome (s.afterValue left op raw t)) := by
  unfold afterValue
  split
  · exact .refl _ _ _
  · exact reports_afterOperand _ _ _

/-- Whether a value has to follow, and the token is none. -/
def LacksValue (s : Reading) (t : Token) : Prop :=
  (∃ left op, s.focus = .compared left op) ∧ t.kind ≠ .value

/-- A step reports its token, or nothing; it misses a value only where one has to follow. -/
theorem reports_step (s : Reading) (t : Token) :
    Reports t (fun expected => expected = .value → s.LacksValue t) s.diagnostics
      (outcome (s.step t)) := by
  have hother : ∀ expected, expected ≠ Expectation.value → expected = .value → s.LacksValue t :=
    fun _ hne heq => absurd heq hne
  unfold step
  split
  · split
    · exact .refl _ _ _
    · exact .refl _ _ _
    · exact .trans (.single (by simp) _ _) ((reports_afterOperand _ _ _).mono hother)
  · split
    · exact .refl _ _ _
    · exact (reports_afterOperand _ _ _).mono hother
  · exact (reports_afterOperand _ _ _).mono hother
  · rename_i left op hfocus
    split
    · exact .refl _ _ _
    · rename_i hvalue
      exact .trans (.single (fun _ => ⟨⟨left, op, hfocus⟩, hvalue⟩) _ _)
        ((reports_afterValue _ _ _ _ _).mono hother)
  · exact (reports_afterValue _ _ _ _ _).mono hother

theorem report_ne_nil {s : Reading} {t : Token} {expected : Expectation} {ds : List Diagnostic}
    (h : (s.report t expected).diagnostics <+: ds) : ds ≠ [] := by
  rintro rfl
  simp [report] at h

/-! ## A step keeps what has been read. -/

/-- Behind an operand, the token belongs to what has been read. -/
theorem reads_afterOperand {s s' : Reading} {e : Expr} {t : Token} {as bs cs : List Token}
    (houter : Opened s.outer as) (hpending : Waiting s.pending bs) (he : Derives .operand cs e)
    (h : s.afterOperand e t = .inl s') : s'.Reads (as ++ bs ++ cs ++ [t]) := by
  unfold afterOperand at h
  split at h
  · rename_i op ht
    cases h
    exact ⟨as, bs, cs ++ [t], by simp, houter, hpending, .compared he ht⟩
  · rename_i c ht
    cases h
    -- What was waiting is completed, and waits again with its conjunction.
    exact ⟨as, bs ++ cs ++ [t], [], by simp, houter, .left (hpending.derives he) ht, .operand⟩
  · rename_i ht
    split at h
    · rename_i outside outer hs
      cases h
      rw [hs] at houter
      cases houter with
      | @group _ _ ts us l houter houtside hl =>
        have hgroup := Derives.group hl (hpending.derives he) ht
        exact ⟨ts, us, l :: (bs ++ cs) ++ [t], by simp, houter, houtside,
          .complete (.primary hgroup)⟩
    · cases h
  · cases h

/-- What a step does that reports nothing: a group or a field begins, an index, a value or the mark
`/i` is taken where it belongs, or the token stands behind the operand at hand. -/
theorem step_cases {s : Reading} {t : Token} (h : outcome (s.step t) = []) :
    (s.focus = .operand ∧ t.kind = .openParen ∧
      s.step t = .inl { s with outer := s.pending :: s.outer, pending := none }) ∨
    (s.focus = .operand ∧ t.kind = .field ∧
      s.step t = .inl { s with focus := .named t.text }) ∨
    (∃ name, s.focus = .named name ∧ t.kind = .index ∧
      s.step t = .inl { s with focus := .complete (.field name (some t.text)) }) ∨
    (∃ left op, s.focus = .compared left op ∧ t.kind = .value ∧
      s.step t = .inl { s with focus := .valued left op t.text }) ∨
    (∃ left op raw, s.focus = .valued left op raw ∧ t.kind = .ignoreCase ∧
      s.step t = .inl { s with focus := .complete (.comparison left op (.value raw true)) }) ∨
    (∃ e, s.focus.operand? = some e ∧ s.step t = s.afterOperand e t) := by
  have hstep : s.step t = s.step t := rfl
  conv at hstep => rhs; unfold step
  cases hf : s.focus with
  | operand =>
    simp only [hf] at hstep
    split at hstep
    · exact .inl ⟨rfl, ‹_›, hstep⟩
    · exact .inr (.inl ⟨rfl, ‹_›, hstep⟩)
    · rw [hstep] at h
      exact absurd h (report_ne_nil (reports_afterOperand _ _ _).isPrefix)
  | named name =>
    simp only [hf] at hstep
    split at hstep
    · exact .inr (.inr (.inl ⟨name, rfl, ‹_›, hstep⟩))
    · exact .inr (.inr (.inr (.inr (.inr ⟨_, rfl, hstep⟩))))
  | complete e =>
    simp only [hf] at hstep
    exact .inr (.inr (.inr (.inr (.inr ⟨e, rfl, hstep⟩))))
  | compared left op =>
    simp only [hf] at hstep
    split at hstep
    · exact .inr (.inr (.inr (.inl ⟨left, op, rfl, ‹_›, hstep⟩)))
    · rw [hstep] at h
      exact absurd h (report_ne_nil (reports_afterValue _ _ _ _ _).isPrefix)
  | valued left op raw =>
    simp only [hf, afterValue] at hstep
    split at hstep
    · exact .inr (.inr (.inr (.inr (.inl ⟨left, op, raw, rfl, ‹_›, hstep⟩))))
    · exact .inr (.inr (.inr (.inr (.inr ⟨_, rfl, hstep⟩))))

/-- A step that reports nothing adds its token to what has been read. -/
theorem reads_step {s s' : Reading} {ts : List Token} {t : Token} (h : s.Reads ts)
    (hstep : s.step t = .inl s') (hd : s'.diagnostics = []) : s'.Reads (ts ++ [t]) := by
  obtain ⟨as, bs, cs, rfl, houter, hpending, hfocus⟩ := h
  have hquiet : outcome (s.step t) = [] := by rw [hstep]; exact hd
  rcases step_cases hquiet with ⟨hf, ht, he⟩ | ⟨hf, ht, he⟩ | ⟨name, hf, ht, he⟩ |
    ⟨left, op, hf, ht, he⟩ | ⟨left, op, raw, hf, ht, he⟩ | ⟨e, hf, he⟩
  · rw [hstep] at he
    cases he
    rw [hf] at hfocus
    cases hfocus
    exact ⟨as ++ bs ++ [t], [], [], by simp, .group houter hpending ht, .nothing,
      hf.symm ▸ .operand⟩
  · rw [hstep] at he
    cases he
    rw [hf] at hfocus
    cases hfocus
    exact ⟨as, bs, [t], by simp, houter, hpending, .named ht⟩
  · rw [hstep] at he
    cases he
    rw [hf] at hfocus
    cases hfocus with
    | @named u hu =>
      exact ⟨as, bs, [u, t], by simp, houter, hpending, .complete (.primary (.indexed hu ht))⟩
  · rw [hstep] at he
    cases he
    rw [hf] at hfocus
    cases hfocus with
    | @compared ts _ u _ hleft hu =>
      exact ⟨as, bs, ts ++ [u, t], by simp, houter, hpending, .valued hleft hu ht⟩
  · rw [hstep] at he
    cases he
    rw [hf] at hfocus
    cases hfocus with
    | @valued ts _ u v _ hleft hu hv =>
      exact ⟨as, bs, ts ++ u :: [v, t], by simp, houter, hpending,
        .complete (.comparison hleft hu (.marked hv ht))⟩
  · rw [hstep] at he
    exact reads_afterOperand houter hpending (hfocus.derives hf) he.symm

/-! ## A reading without diagnostics ends with a derivation. -/

/-- A reading stops without diagnostics only at the end of the text, with no group open. -/
theorem stop_quiet {t : Token} {ds : List Diagnostic} {outer : List Pending} {pending : Pending}
    {e : Expr} (h : (stop t ds outer pending e).diagnostics = []) :
    outer = [] ∧ t.kind = .finish ∧ (stop t ds outer pending e).root = pending.join e := by
  cases outer with
  | nil =>
    refine ⟨rfl, Decidable.byContradiction fun ht => ?_, rfl⟩
    simp [stop, ht] at h
  | cons outside outer =>
    -- An open group is reported, and stays reported.
    have hprefix := (reports_stop t (ds ++ [⟨.unexpected t.kind .closeParen, t.position⟩]) outer
      outside (.group (pending.join e))).isPrefix
    rw [stop] at h
    rw [h] at hprefix
    simp at hprefix

theorem eq_stop_of_afterOperand {s : Reading} {e : Expr} {t : Token} {tree : FilterTree}
    (h : s.afterOperand e t = .inr tree) : tree = stop t s.diagnostics s.outer s.pending e := by
  unfold afterOperand at h
  split at h
  · cases h
  · cases h
  · split at h
    · cases h
    · exact (Sum.inr.inj h).symm
  · exact (Sum.inr.inj h).symm

/-- A reading that stops without diagnostics has come to the end and has read a filter. -/
theorem derives_of_step {s : Reading} {ts : List Token} {t : Token} {tree : FilterTree}
    (h : s.Reads ts) (hstep : s.step t = .inr tree) (hd : tree.diagnostics = []) :
    t.kind = .finish ∧ Derives .filter ts tree.root := by
  obtain ⟨as, bs, cs, rfl, houter, hpending, hfocus⟩ := h
  have hquiet : outcome (s.step t) = [] := by rw [hstep]; exact hd
  rcases step_cases hquiet with ⟨_, _, he⟩ | ⟨_, _, he⟩ | ⟨_, _, _, he⟩ | ⟨_, _, _, _, he⟩ |
    ⟨_, _, _, _, _, he⟩ | ⟨e, hf, he⟩
  · cases hstep.symm.trans he
  · cases hstep.symm.trans he
  · cases hstep.symm.trans he
  · cases hstep.symm.trans he
  · cases hstep.symm.trans he
  · obtain rfl := eq_stop_of_afterOperand (he.symm.trans hstep)
    obtain ⟨hs, ht, hroot⟩ := stop_quiet hd
    rw [hs] at houter
    cases houter
    rw [hroot]
    exact ⟨ht, hpending.derives (hfocus.derives hf)⟩

/-- At the end of the text a reading stops. -/
theorem step_finish (s : Reading) {t : Token} (ht : t.kind = .finish) :
    ∃ tree, s.step t = .inr tree := by
  unfold step
  cases s.focus <;> simp [ht, afterValue, afterOperand]

/-- Reading keeps the diagnostics and may add some. -/
theorem prefix_run (s : Reading) (ts : List Token) :
    s.diagnostics <+: (s.run ts).diagnostics := by
  induction ts generalizing s with
  | nil =>
    have hstep := (reports_step s ⟨.finish, 0, ""⟩).isPrefix
    obtain ⟨tree, htree⟩ := step_finish s (t := ⟨.finish, 0, ""⟩) rfl
    rw [htree] at hstep
    rw [run, htree]
    exact hstep
  | cons t ts ih =>
    have hstep := (reports_step s t).isPrefix
    unfold run
    cases hs : s.step t with
    | inl s' =>
      rw [hs] at hstep
      exact hstep.trans (ih s')
    | inr tree =>
      rw [hs] at hstep
      exact hstep

/-- What is read without diagnostics is derivable. -/
theorem derives_of_run {s : Reading} {ts us : List Token} {last : Token} (h : s.Reads ts)
    (hus : ∀ t ∈ us, t.kind ≠ .finish) (hlast : last.kind = .finish)
    (hd : (s.run (us ++ [last])).diagnostics = []) :
    Derives .filter (ts ++ us) (s.run (us ++ [last])).root := by
  induction us generalizing s ts with
  | nil =>
    obtain ⟨tree, htree⟩ := step_finish s hlast
    simp only [List.nil_append, run, htree, List.append_nil] at hd ⊢
    exact (derives_of_step h htree hd).2
  | cons t us ih =>
    rw [List.cons_append, run] at hd ⊢
    cases hs : s.step t with
    | inl s' =>
      simp only [hs] at hd ⊢
      have hd' : s'.diagnostics = [] := List.prefix_nil.1 (hd ▸ prefix_run s' (us ++ [last]))
      have := ih (reads_step h hs hd') (fun u hu => hus u (by simp [hu])) hd
      rwa [List.append_assoc] at this
    | inr tree =>
      simp only [hs] at hd
      exact absurd (derives_of_step h hs hd).1 (hus t (by simp))

end Reading

/-! ## Texts. -/

/-- Whether no token of the text is bad. -/
def isClean (customs : List String) (text : String) : Bool :=
  (scan customs text).1.all (·.kind != .bad)

/-- The tokens of the text that the grammar is about: no blanks, and not the end of the text. -/
def sentence (customs : List String) (text : String) : List Token :=
  (scan customs text).1.filter fun t => t.kind != .blank && t.kind != .finish

theorem scan_diagnostics_eq_nil_iff (customs : List String) (text : String) :
    (scan customs text).2 = [] ↔ isClean customs text = true := by
  simp only [scan, isClean, List.filterMap_eq_nil_iff, List.all_map, List.all_eq_true,
    Function.comp_apply, bne_iff_ne]
  refine forall₂_congr fun p hp => ?_
  obtain ⟨cursor, rfl⟩ := exists_of_mem_scanFrom hp
  have hfits := (fits_cut customs cursor.mode cursor.rest).1
  simpa [Cursor.next] using hfits

/-- Behind the sentence of a clean text, the reader finds just the end of the text. -/
theorem exists_tokens_eq {customs : List String} {text : String} (h : isClean customs text = true) :
    ∃ last, last.kind = .finish ∧
      ((scan customs text).1.filter fun t => !t.kind.isSkipped) =
        sentence customs text ++ [last] := by
  obtain ⟨pieces, last, hpieces, hlast, hne⟩ := scanFrom_eq_append customs (.start text)
  have htokens : (scan customs text).1 = pieces.map (·.1) ++ [last.1] := by
    simp [scan, hpieces]
  refine ⟨last.1, hlast, ?_⟩
  simp only [isClean, htokens, List.all_append, Bool.and_eq_true] at h
  have hkept : [last.1].filter (fun t => !t.kind.isSkipped) = [last.1] := by
    simp [hlast, TokenKind.isSkipped]
  have hdropped : [last.1].filter (fun t => t.kind != .blank && t.kind != .finish) = [] := by
    simp [hlast]
  rw [sentence, htokens, List.filter_append, List.filter_append, hkept, hdropped, List.append_nil]
  congr 1
  refine List.filter_congr fun t ht => ?_
  -- In the sentence there is neither a bad token nor one of kind `finish`.
  have hbad : t.kind ≠ .bad := by simpa using List.all_eq_true.1 h.1 t ht
  obtain ⟨p, hp, rfl⟩ := List.mem_map.1 ht
  have hfinish := hne p hp
  cases hk : p.1.kind <;> simp_all [TokenKind.isSkipped]

theorem parse_eq_iff {customs : List String} {text : String} {e : Expr} :
    parse customs text = ⟨e, []⟩ ↔
      isClean customs text = true ∧ Derives .filter (sentence customs text) e := by
  constructor
  · intro h
    have hd : (parse customs text).diagnostics = [] := by rw [h]
    have hscan : (scan customs text).2 = [] :=
      List.prefix_nil.1 (hd ▸ Reading.prefix_run { diagnostics := (scan customs text).2 } _)
    have hclean := (scan_diagnostics_eq_nil_iff customs text).1 hscan
    obtain ⟨last, hlast, htokens⟩ := exists_tokens_eq hclean
    have hparse : parse customs text = Reading.run {} (sentence customs text ++ [last]) := by
      rw [parse, ← htokens, ← hscan]
    refine ⟨hclean, ?_⟩
    have hreads : Reading.Reads {} [] := ⟨[], [], [], rfl, .nothing, .nothing, .operand⟩
    have hne : ∀ t ∈ sentence customs text, t.kind ≠ .finish := by
      intro t ht
      have hkind := (List.mem_filter.1 ht).2
      simp only [Bool.and_eq_true, bne_iff_ne] at hkind
      exact hkind.2
    have hderives := Reading.derives_of_run hreads hne hlast (hparse ▸ hd)
    rwa [← hparse, h] at hderives
  · rintro ⟨hclean, h⟩
    obtain ⟨last, hlast, htokens⟩ := exists_tokens_eq hclean
    have hscan := (scan_diagnostics_eq_nil_iff customs text).2 hclean
    rw [parse, ← Reading.run_of_derives h hlast, ← htokens, ← hscan]

/-- A filter is read without diagnostics iff its text has no bad token and its tokens derive a
filter, and it is then read as the tree of each derivation. -/
theorem parse_valid_iff_derives (r : OperatorRegistry) (text : String) :
    ((parse r.names text).isValid = true ↔
      isClean r.names text = true ∧ ∃ e, Derives .filter (sentence r.names text) e) ∧
    ∀ e, parse r.names text = ⟨e, []⟩ ↔
      isClean r.names text = true ∧ Derives .filter (sentence r.names text) e := by
  refine ⟨⟨fun h => ?_, fun ⟨hclean, e, he⟩ => ?_⟩, fun e => parse_eq_iff⟩
  · have hd : (parse r.names text).diagnostics = [] := List.isEmpty_iff.1 h
    have hparse : parse r.names text = ⟨(parse r.names text).root, []⟩ := by rw [← hd]
    exact ⟨(parse_eq_iff.1 hparse).1, _, (parse_eq_iff.1 hparse).2⟩
  · rw [parse_eq_iff.2 ⟨hclean, he⟩]
    rfl

end FilterQuery
