/-! # Rounding to binary precision

`nearestUnits bits scale num den` rounds the fraction `num / den` to a multiple of `2 ^ -scale`
whose binary significand has at most `bits` digits.  It takes the nearest such number, and of two
equally near ones the one with the even significand.

## Key results

* `roundHalfEven_exact`: a whole quotient is kept
* `nearestUnits_eq`: the result is a significand of at most `bits` binary digits, shifted left -/

namespace FilterQuery

/-- The integer nearest to `num / den`; a half goes to the even neighbour. -/
def roundHalfEven (num den : Nat) : Nat :=
  let quotient := num / den
  let twice := 2 * (num % den)
  if twice < den then quotient
  else if den < twice then quotient + 1
  else quotient + quotient % 2

theorem roundHalfEven_le (num den : Nat) : roundHalfEven num den ≤ num / den + 1 := by
  unfold roundHalfEven; dsimp only; split
  · omega
  · split <;> omega

theorem le_roundHalfEven (num den : Nat) : num / den ≤ roundHalfEven num den := by
  unfold roundHalfEven; dsimp only; split
  · omega
  · split <;> omega

theorem roundHalfEven_exact {den : Nat} (h : 0 < den) (n : Nat) :
    roundHalfEven (n * den) den = n := by
  simp [roundHalfEven, h]

/-- How far the significand of a quotient has to be shifted so that `bits` digits hold it. -/
def shiftFor (bits quotient : Nat) : Nat :=
  if quotient < Nat.pow 2 bits then 0 else quotient.log2 + 1 - bits

/-- The multiple of `2 ^ -scale` with a significand of `bits` binary digits that is nearest to
`num / den`. -/
def nearestUnits (bits scale num den : Nat) : Nat :=
  let scaled := num * Nat.pow 2 scale
  let shift := shiftFor bits (scaled / den)
  roundHalfEven scaled (den * Nat.pow 2 shift) * Nat.pow 2 shift

theorem div_shiftFor_lt (bits quotient : Nat) :
    quotient / Nat.pow 2 (shiftFor bits quotient) < Nat.pow 2 bits := by
  unfold shiftFor
  simp only [Nat.pow_eq]
  split
  · simpa
  · rename_i h
    rw [Nat.div_lt_iff_lt_mul (Nat.two_pow_pos _), ← Nat.pow_add]
    have hq : quotient ≠ 0 := by
      intro h0; subst h0; exact h (Nat.two_pow_pos _)
    have hle : bits ≤ quotient.log2 := (Nat.le_log2 hq).2 (by omega)
    have := @Nat.lt_log2_self quotient
    rwa [show bits + (quotient.log2 + 1 - bits) = quotient.log2 + 1 by omega]

/-- The result of `nearestUnits` is a significand of `bits` digits, shifted left. -/
theorem nearestUnits_eq {bits : Nat} (hbits : 0 < bits) (scale num den : Nat) :
    ∃ significand shift,
      significand < Nat.pow 2 bits ∧
        nearestUnits bits scale num den = significand * Nat.pow 2 shift := by
  unfold nearestUnits
  simp only [Nat.pow_eq]
  generalize hs : shiftFor bits (num * 2 ^ scale / den) = shift
  -- The quotient behind the shift has at most `bits` digits.
  have hlt := div_shiftFor_lt bits (num * 2 ^ scale / den)
  simp only [Nat.pow_eq] at hlt
  rw [hs, Nat.div_div_eq_div_mul] at hlt
  have hle := roundHalfEven_le (num * 2 ^ scale) (den * 2 ^ shift)
  -- Rounding up may reach `2 ^ bits`, which has a short significand again.
  by_cases hm : roundHalfEven (num * 2 ^ scale) (den * 2 ^ shift) < 2 ^ bits
  · exact ⟨_, shift, hm, rfl⟩
  · have heq : roundHalfEven (num * 2 ^ scale) (den * 2 ^ shift) = 2 ^ bits := by omega
    refine ⟨1, bits + shift, ?_, ?_⟩
    · exact Nat.one_lt_two_pow (by omega)
    · rw [heq, Nat.pow_add, Nat.one_mul]

end FilterQuery
