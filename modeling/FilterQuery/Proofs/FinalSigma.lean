import FilterQuery.Text.Case

/-!
# Lower case in context

The lower case of a text is made character by character, except for the capital sigma: at the end of a
word it becomes a final sigma. So the lower case of a part of a text is that of the part by itself iff
the capital sigmas in it end words in the whole text where they do so in the part.

## Key results

- `lowerBy_eq_lowerBy_iff`: texts are lowered alike iff their sigmas are
- `lower_eq_lowerEach_iff`: the lower case of a text is that of its characters unless a capital sigma
  ends a word
- `lower_append_append`: the lower case of a text in three parts
- `lowerIn_eq_lower_iff`: where the lower case of a part is that of the part by itself
-/

namespace FilterQuery.Text

/-! ## The end of a word. -/

/-- Whether a word ends between two texts: a letter stands in front and none behind, where characters
that have no part in words are passed over. -/
def EndsWord (before after : List Char) : Prop :=
  meetsCased before.reverse = true ∧ meetsCased after = false

/-- Whether some capital sigma of the text ends a word. -/
def HasFinalSigma (cs : List Char) : Prop :=
  ∃ front back, cs = front ++ 'Σ' :: back ∧ EndsWord front back

/-- Whether the capital sigmas of a text end words between the two others where they do so in the text
by itself. -/
def SigmasAgree (before cs after : List Char) : Prop :=
  ∀ front back, cs = front ++ 'Σ' :: back →
    (EndsWord (before ++ front) (back ++ after) ↔ EndsWord front back)

/-! ## Lower case with given final sigmas. -/

/-- Lower case of a text whose capital sigmas are final where that is said, of the reversed text in
front of them and the text behind them. -/
def lowerBy (isFinal : List Char → List Char → Bool) (before : List Char) : List Char → List Char
  | [] => []
  | c :: rest =>
    (if c = 'Σ' then [if isFinal before rest then 'ς' else 'σ'] else lowerChar c) ++
      lowerBy isFinal (c :: before) rest

/-- Lower case of a text that stands between two others. -/
def lowerIn (before cs after : List Char) : List Char :=
  lowerBy (fun front back => meetsCased front && !meetsCased (back ++ after)) before.reverse cs

variable {isFinal isFinal' : List Char → List Char → Bool}

theorem lowerAfter_eq_lowerBy (before cs : List Char) :
    lowerAfter before cs =
      lowerBy (fun front back => meetsCased front && !meetsCased back) before cs := by
  induction cs generalizing before with
  | nil => rfl
  | cons c rest ih => simp only [lowerAfter, lowerBy, ih]

theorem lowerEach_eq_lowerBy (before cs : List Char) :
    lowerEach cs = lowerBy (fun _ _ => false) before cs := by
  have hsigma : lowerChar 'Σ' = ['σ'] := by decide +kernel
  induction cs generalizing before with
  | nil => rfl
  | cons c rest ih =>
    rw [lowerBy, ← ih]
    by_cases hc : c = 'Σ'
    · subst hc
      simp [lowerEach, hsigma]
    · simp [lowerEach, hc]

/-- Final or not, a sigma is one character. -/
theorem length_lowerBy (isFinal isFinal' : List Char → List Char → Bool)
    (before before' cs : List Char) :
    (lowerBy isFinal before cs).length = (lowerBy isFinal' before' cs).length := by
  induction cs generalizing before before' with
  | nil => rfl
  | cons c rest ih =>
    rw [lowerBy, lowerBy, List.length_append, List.length_append,
      ih (c :: before) (c :: before')]
    split <;> rfl

/-- Texts are lowered alike iff their sigmas are. -/
theorem lowerBy_eq_lowerBy_iff {before before' cs : List Char} :
    lowerBy isFinal before cs = lowerBy isFinal' before' cs ↔
      ∀ front back, cs = front ++ 'Σ' :: back →
        isFinal (front.reverse ++ before) back = isFinal' (front.reverse ++ before') back := by
  induction cs generalizing before before' with
  | nil => simp [lowerBy]
  | cons c rest ih =>
    -- A sigma of the text is its first character or one of the others.
    have hcons : (∀ front back, c :: rest = front ++ 'Σ' :: back →
        isFinal (front.reverse ++ before) back = isFinal' (front.reverse ++ before') back) ↔
        (c = 'Σ' → isFinal before rest = isFinal' before' rest) ∧
          ∀ front back, rest = front ++ 'Σ' :: back →
            isFinal (front.reverse ++ c :: before) back =
              isFinal' (front.reverse ++ c :: before') back := by
      constructor
      · intro h
        refine ⟨fun hc => h [] rest (by rw [hc]; rfl), fun front back hrest => ?_⟩
        simpa using h (c :: front) back (by rw [hrest]; rfl)
      · rintro ⟨hfirst, hothers⟩ front back hsplit
        cases front with
        | nil =>
          obtain ⟨rfl, rfl⟩ := List.cons.inj hsplit
          exact hfirst rfl
        | cons d front =>
          obtain ⟨rfl, hrest⟩ := List.cons.inj hsplit
          simpa using hothers front back hrest
    rw [hcons, ← ih, lowerBy, lowerBy]
    by_cases hc : c = 'Σ'
    · rw [if_pos hc, if_pos hc, List.singleton_append, List.singleton_append, List.cons.injEq]
      apply and_congr_left'
      cases isFinal before rest <;> cases isFinal' before' rest <;> simp [hc]
    · rw [if_neg hc, if_neg hc, List.append_cancel_left_eq]
      simp [hc]

theorem lowerBy_append (isFinal : List Char → List Char → Bool) (before cs after : List Char) :
    lowerBy isFinal before (cs ++ after) =
      lowerBy (fun front back => isFinal front (back ++ after)) before cs ++
        lowerBy isFinal (cs.reverse ++ before) after := by
  induction cs generalizing before with
  | nil => rfl
  | cons c rest ih => simp [lowerBy, ih]

/-! ## The lower case of parts. -/

/-- The test that `lowerAfter` makes at a capital sigma. -/
theorem endsWord_iff {before after : List Char} :
    EndsWord before after ↔ (meetsCased before.reverse && !meetsCased after) = true := by
  simp [EndsWord]

theorem lowerIn_nil_nil (cs : List Char) : lowerIn [] cs [] = lower cs := by
  simp [lowerIn, lower, lowerAfter_eq_lowerBy]

theorem length_lowerIn (before cs after : List Char) :
    (lowerIn before cs after).length = (lower cs).length := by
  rw [← lowerIn_nil_nil]
  exact length_lowerBy _ _ _ _ _

/-- The lower case of a text is that of its parts in their context. -/
theorem lower_append_append (before cs after : List Char) :
    lower (before ++ cs ++ after) =
      lowerIn [] before (cs ++ after) ++ lowerIn before cs after ++
        lowerIn (before ++ cs) after [] := by
  rw [lower, lowerAfter_eq_lowerBy, List.append_assoc, lowerBy_append, lowerBy_append]
  simp [lowerIn]

/-- A part is lowered in a text as it is by itself iff its sigmas agree with the text. -/
theorem lowerIn_eq_lower_iff {before cs after : List Char} :
    lowerIn before cs after = lower cs ↔ SigmasAgree before cs after := by
  rw [← lowerIn_nil_nil, lowerIn, lowerIn, lowerBy_eq_lowerBy_iff]
  apply forall_congr'; intro front
  apply forall_congr'; intro back
  apply imp_congr_right; intro _
  rw [endsWord_iff, endsWord_iff, Bool.eq_iff_iff]
  simp

/-- The lower case of a text is that of its characters unless a capital sigma ends a word. -/
theorem lower_eq_lowerEach_iff {cs : List Char} : lower cs = lowerEach cs ↔ ¬HasFinalSigma cs := by
  rw [lower, lowerAfter_eq_lowerBy, lowerEach_eq_lowerBy [], lowerBy_eq_lowerBy_iff]
  simp only [HasFinalSigma, endsWord_iff, not_exists, not_and, List.append_nil,
    Bool.not_eq_true]

end FilterQuery.Text
