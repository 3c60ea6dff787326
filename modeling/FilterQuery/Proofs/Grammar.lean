import FilterQuery.Filter.Expr.Parse

/-!
# The grammar of filters

`Derives phrase ts e` says that the tokens `ts` form a phrase of the grammar

    filter  := operand (conjunction operand)*
    operand := primary (operator value)*
    primary := '(' filter ')' | field index?
    value   := text '/i'?

and that `e` is its tree. A repetition is written as left recursion, so the tree of a filter or of
an operand is the left-associative one, and both conjunctions have one rule and so one precedence.

`Reading.Passes s ts s'` says that a reading in state `s` takes the tokens `ts` and is then in state
`s'`, whatever stands behind them. `run_of_derives` is the completeness of the reading: it takes a
derivable filter to its tree and reports nothing.
-/

namespace FilterQuery

/-- The phrases of the filter language. -/
inductive Phrase where
  | filter
  | operand
  | primary
  | value
deriving DecidableEq, Repr

/-- The tokens form a phrase whose tree is the given expression. -/
inductive Derives : Phrase → List Token → Expr → Prop
  | field {t : Token} (ht : t.kind = .field) : Derives .primary [t] (.field t.text none)
  | indexed {t i : Token} (ht : t.kind = .field) (hi : i.kind = .index) :
      Derives .primary [t, i] (.field t.text (some i.text))
  | group {l r : Token} {ts : List Token} {e : Expr} (hl : l.kind = .openParen)
      (h : Derives .filter ts e) (hr : r.kind = .closeParen) :
      Derives .primary (l :: ts ++ [r]) (.group e)
  | primary {ts : List Token} {e : Expr} (h : Derives .primary ts e) : Derives .operand ts e
  | comparison {ts us : List Token} {left right : Expr} {t : Token} {op : Operator}
      (hleft : Derives .operand ts left) (ht : t.kind = .operator op)
      (hright : Derives .value us right) :
      Derives .operand (ts ++ t :: us) (.comparison left op right)
  | value {v : Token} (hv : v.kind = .value) : Derives .value [v] (.value v.text false)
  | marked {v m : Token} (hv : v.kind = .value) (hm : m.kind = .ignoreCase) :
      Derives .value [v, m] (.value v.text true)
  | operand {ts : List Token} {e : Expr} (h : Derives .operand ts e) : Derives .filter ts e
  | logical {ts us : List Token} {left right : Expr} {t : Token} {c : Conjunction}
      (hleft : Derives .filter ts left) (ht : t.kind = .conjunction c)
      (hright : Derives .operand us right) :
      Derives .filter (ts ++ t :: us) (.logical left c right)

/-- The operand at hand, unless an index or the mark `/i` still extends it. -/
def Focus.operand? : Focus → Option Expr
  | .named name => some (.field name none)
  | .complete e => some e
  | .valued left op raw => some (.comparison left op (.value raw false))
  | _ => none

namespace Reading

/-- Behind a complete operand, a token that does not extend it is taken as the token behind it. -/
theorem step_of_operand? {s : Reading} {e : Expr} {t : Token} (h : s.focus.operand? = some e)
    (hindex : t.kind ≠ .index) (hmark : t.kind ≠ .ignoreCase) :
    s.step t = s.afterOperand e t := by
  unfold step
  cases hf : s.focus with
  | operand => simp [hf, Focus.operand?] at h
  | compared left op => simp [hf, Focus.operand?] at h
  | named name =>
    simp only [hf, Focus.operand?, Option.some.injEq] at h
    subst h
    split <;> simp_all
  | complete e' =>
    rw [hf] at h
    cases h
    rfl
  | valued left op raw =>
    simp only [hf, Focus.operand?, Option.some.injEq] at h
    subst h
    simp only [afterValue]

/-- The reading takes the tokens to the other state, whatever stands behind them. -/
def Passes (s : Reading) (ts : List Token) (s' : Reading) : Prop :=
  ∀ rest, s.run (ts ++ rest) = s'.run rest

theorem passes_cons {s r s' : Reading} {t : Token} {ts : List Token} (ht : s.step t = .inl r)
    (h : r.Passes ts s') : s.Passes (t :: ts) s' := by
  intro rest
  rw [List.cons_append, run, ht]
  exact h rest

theorem passes_nil (s : Reading) : s.Passes [] s := fun _ => rfl

theorem passes_append {s r s' : Reading} {ts us : List Token} (h : s.Passes ts r)
    (h' : r.Passes us s') : s.Passes (ts ++ us) s' := by
  intro rest
  rw [List.append_assoc, h, h']

/-- What reading a phrase with the given tree comes to. Operands are read where one may begin,
filters at the beginning of a group, values behind an operator. -/
def Takes (ts : List Token) (e : Expr) : Phrase → Prop
  | .filter => ∀ s : Reading, s.focus = .operand → s.pending = none →
      ∃ pending focus last, focus.operand? = some last ∧ pending.join last = e ∧
        s.Passes ts { s with pending, focus }
  | .operand | .primary => ∀ s : Reading, s.focus = .operand →
      ∃ focus, focus.operand? = some e ∧ s.Passes ts { s with focus }
  | .value => ∀ (s : Reading) (left : Expr) (op : Operator), s.focus = .compared left op →
      ∃ focus, focus.operand? = some (.comparison left op e) ∧ s.Passes ts { s with focus }

/-- Every phrase is taken as its derivation says. -/
theorem takes_of_derives {phrase : Phrase} {ts : List Token} {e : Expr}
    (h : Derives phrase ts e) : Takes ts e phrase := by
  induction h with
  | @field t ht =>
    intro s hs
    refine ⟨.named t.text, rfl, passes_cons ?_ (passes_nil _)⟩
    simp [step, hs, ht]
  | @indexed t i ht hi =>
    intro s hs
    refine ⟨.complete _, rfl, passes_cons (r := { s with focus := .named t.text }) ?_
      (passes_cons ?_ (passes_nil _))⟩
    · simp [step, hs, ht]
    · simp [step, hi]
  | @group l r ts e hl _ hr ih =>
    intro s hs
    -- Inside the parentheses nothing is pending; what was pending waits on the stack.
    obtain ⟨pending, focus, last, hlast, hjoin, hpass⟩ :=
      ih { s with outer := s.pending :: s.outer, pending := none } hs rfl
    refine ⟨.complete (.group e), rfl, passes_append (passes_cons ?_ hpass)
      (passes_cons ?_ (passes_nil _))⟩
    · simp [step, hs, hl]
    · rw [step_of_operand? (e := last) hlast (by simp [hr]) (by simp [hr])]
      simp [afterOperand, hr, hjoin]
  | primary _ ih => exact ih
  | @comparison ts us left right t op _ ht _ ihl ihr =>
    intro s hs
    obtain ⟨focus, hfocus, hleft⟩ := ihl s hs
    obtain ⟨focus', hfocus', hright⟩ :=
      ihr { s with focus := .compared left op } left op rfl
    refine ⟨focus', hfocus', passes_append hleft (passes_cons ?_ hright)⟩
    rw [step_of_operand? (e := left) hfocus (by simp [ht]) (by simp [ht])]
    simp [afterOperand, ht]
  | @value v hv =>
    intro s left op hs
    refine ⟨.valued left op v.text, rfl, passes_cons ?_ (passes_nil _)⟩
    simp [step, hs, hv]
  | @marked v m hv hm =>
    intro s left op hs
    refine ⟨.complete _, rfl, passes_cons (r := { s with focus := .valued left op v.text }) ?_
      (passes_cons ?_ (passes_nil _))⟩
    · simp [step, hs, hv]
    · simp [step, afterValue, hm]
  | operand _ ih =>
    intro s hs hp
    obtain ⟨focus, hfocus, hpass⟩ := ih s hs
    exact ⟨none, focus, _, hfocus, rfl, by rwa [← hp]⟩
  | @logical ts us left right t c _ ht _ ihl ihr =>
    intro s hs hp
    obtain ⟨pending, focus, last, hlast, hjoin, hleft⟩ := ihl s hs hp
    obtain ⟨focus', hfocus', hright⟩ :=
      ihr { s with pending := some (left, c), focus := .operand } rfl
    refine ⟨some (left, c), focus', right, hfocus', rfl,
      passes_append hleft (passes_cons ?_ hright)⟩
    rw [step_of_operand? (e := last) hlast (by simp [ht]) (by simp [ht])]
    simp [afterOperand, ht, hjoin]

/-- A derivable filter is read as its tree, without diagnostics. -/
theorem run_of_derives {ts : List Token} {e : Expr} {last : Token} (h : Derives .filter ts e)
    (hlast : last.kind = .finish) : ({} : Reading).run (ts ++ [last]) = ⟨e, []⟩ := by
  obtain ⟨pending, focus, operand, hfocus, hjoin, hpass⟩ := takes_of_derives h {} rfl rfl
  rw [hpass, run, step_of_operand? (e := operand) hfocus (by simp [hlast]) (by simp [hlast])]
  simp [afterOperand, hlast, stop, hjoin]

end Reading

end FilterQuery
