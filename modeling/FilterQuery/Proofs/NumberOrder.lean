import FilterQuery.Number
import Mathlib.Algebra.Group.Nat.Defs
import Mathlib.Tactic.ByContra
import Mathlib.Tactic.SplitIfs

/-!
# The order of numbers

Integers are compared with each other exactly, and with doubles as the doubles next to them. Rounding
keeps the order, so that numbers of all types stand in one order as far as it can tell them apart: it
fails to be transitive only where two integers that differ are rounded to the double between them.

## Key results

- `nearestUnits_mono`, `nearestUnits_exact`: rounding keeps the order, and what can be represented
- `Binary64.key_le_of_le`: greater integers have no smaller doubles next to them
- `Number.exists_compare?`: numbers can be compared, in either direction
- `Number.atMost_trans_iff`: where the order of numbers is transitive
- `Number.compare?_isOrder`: numbers are an order but for integers with one double between them
-/

namespace FilterQuery

/-! ## Rounding keeps the order. -/

theorem roundHalfEven_mono {num num' : Nat} (h : num ≤ num') (den : Nat) :
    roundHalfEven num den ≤ roundHalfEven num' den := by
  have hdiv : num / den ≤ num' / den := Nat.div_le_div_right h
  have hround := roundHalfEven_le num den
  have hround' := le_roundHalfEven num' den
  by_cases hlt : num / den < num' / den
  · omega
  · -- Both have the same quotient, so the remainders decide.
    have hquotient : num / den = num' / den := by omega
    have hnum := Nat.div_add_mod num den
    have hnum' := Nat.div_add_mod num' den
    rw [hquotient] at hnum
    unfold roundHalfEven
    dsimp only
    rw [hquotient]
    split_ifs <;> omega

/-- A quotient of few digits is shifted by little. -/
theorem shiftFor_le {bits quotient shift : Nat} (h : quotient < 2 ^ (bits + shift)) :
    shiftFor bits quotient ≤ shift := by
  unfold shiftFor
  split
  · omega
  · rename_i hlong
    have hpos : quotient ≠ 0 := by
      rintro rfl
      exact hlong (Nat.two_pow_pos bits)
    have hlog : quotient.log2 < bits + shift := (Nat.log2_lt hpos).2 h
    omega

/-- A quotient that is shifted has all the digits of the significand left. -/
theorem le_div_shiftFor {bits quotient : Nat} (hbits : 0 < bits)
    (h : shiftFor bits quotient ≠ 0) :
    2 ^ (bits - 1) ≤ quotient / 2 ^ shiftFor bits quotient := by
  unfold shiftFor at h ⊢
  split at h
  · exact absurd rfl h
  · rename_i hlong
    rw [if_neg hlong, Nat.le_div_iff_mul_le (Nat.two_pow_pos _), ← Nat.pow_add]
    have hpos : quotient ≠ 0 := by
      rintro rfl
      exact hlong (Nat.two_pow_pos bits)
    have hlog : bits ≤ quotient.log2 := (Nat.le_log2 hpos).2 (Nat.le_of_not_lt hlong)
    calc 2 ^ (bits - 1 + (quotient.log2 + 1 - bits))
        ≤ 2 ^ quotient.log2 := Nat.pow_le_pow_right (by omega) (by omega)
      _ ≤ quotient := Nat.log2_self_le hpos

theorem shiftFor_mono {bits quotient quotient' : Nat} (h : quotient ≤ quotient') :
    shiftFor bits quotient ≤ shiftFor bits quotient' := by
  apply shiftFor_le
  have hlt := div_shiftFor_lt bits quotient'
  simp only [Nat.pow_eq] at hlt
  rw [Nat.div_lt_iff_lt_mul (Nat.two_pow_pos _), ← Nat.pow_add] at hlt
  omega

/-- Rounding to a number of digits keeps the order. -/
theorem nearestUnits_mono {bits : Nat} (hbits : 0 < bits) (scale den : Nat) {num num' : Nat}
    (h : num ≤ num') : nearestUnits bits scale num den ≤ nearestUnits bits scale num' den := by
  unfold nearestUnits
  simp only [Nat.pow_eq]
  have hscaled : num * 2 ^ scale ≤ num' * 2 ^ scale := Nat.mul_le_mul_right _ h
  generalize num * 2 ^ scale = scaled at hscaled ⊢
  generalize num' * 2 ^ scale = scaled' at hscaled ⊢
  have hshift : shiftFor bits (scaled / den) ≤ shiftFor bits (scaled' / den) :=
    shiftFor_mono (Nat.div_le_div_right hscaled)
  rcases Nat.eq_or_lt_of_le hshift with heq | hlt
  · rw [heq]
    exact Nat.mul_le_mul_right _ (roundHalfEven_mono hscaled _)
  · -- Between the two lies the power of two at which the shift grows.
    have hlow := roundHalfEven_le scaled (den * 2 ^ shiftFor bits (scaled / den))
    have hdigits := div_shiftFor_lt bits (scaled / den)
    have hhigh := le_roundHalfEven scaled' (den * 2 ^ shiftFor bits (scaled' / den))
    have hshifted : shiftFor bits (scaled' / den) ≠ 0 := by omega
    have hdigits' := le_div_shiftFor hbits hshifted
    rw [Nat.pow_eq, Nat.pow_eq, Nat.div_div_eq_div_mul] at hdigits
    rw [Nat.div_div_eq_div_mul] at hdigits'
    generalize shiftFor bits (scaled / den) = shift at *
    generalize shiftFor bits (scaled' / den) = shift' at *
    calc roundHalfEven scaled (den * 2 ^ shift) * 2 ^ shift
        ≤ 2 ^ bits * 2 ^ shift := Nat.mul_le_mul_right _ (by omega)
      _ = 2 ^ (bits + shift) := (Nat.pow_add 2 bits shift).symm
      _ ≤ 2 ^ (bits - 1 + shift') := Nat.pow_le_pow_right (by omega) (by omega)
      _ = 2 ^ (bits - 1) * 2 ^ shift' := Nat.pow_add 2 (bits - 1) shift'
      _ ≤ roundHalfEven scaled' (den * 2 ^ shift') * 2 ^ shift' :=
        Nat.mul_le_mul_right _ (Nat.le_trans hdigits' hhigh)

/-- An integer with a short significand is not changed by rounding. -/
theorem nearestUnits_exact {bits significand : Nat} (h : significand < 2 ^ bits)
    (shift scale : Nat) :
    nearestUnits bits scale (significand * 2 ^ shift) 1 = significand * 2 ^ shift * 2 ^ scale := by
  unfold nearestUnits
  simp only [Nat.pow_eq, Nat.div_one, Nat.one_mul]
  have hscaled : significand * 2 ^ shift * 2 ^ scale = significand * 2 ^ (shift + scale) := by
    rw [Nat.mul_assoc, ← Nat.pow_add]
  rw [hscaled]
  have hle : shiftFor bits (significand * 2 ^ (shift + scale)) ≤ shift + scale := by
    apply shiftFor_le
    rw [Nat.pow_add 2 bits]
    exact Nat.mul_lt_mul_of_pos_right h (Nat.two_pow_pos _)
  generalize shiftFor bits (significand * 2 ^ (shift + scale)) = cut at hle
  -- The digits that are cut off are zeros.
  have hsplit : significand * 2 ^ (shift + scale) =
      significand * 2 ^ (shift + scale - cut) * 2 ^ cut := by
    rw [Nat.mul_assoc, ← Nat.pow_add, Nat.sub_add_cancel hle]
  rw [hsplit, roundHalfEven_exact (Nat.two_pow_pos _)]

/-! ## Integers and the doubles next to them. -/

namespace Binary64

/-- The units of the double next to a natural number; what is too great counts as infinite. -/
def unitsNear (n : Nat) : Nat := min (nearestUnits 53 1074 n 1) overflow

theorem key?_ofInt (n : Int) :
    (ofInt n).key? = some (if n < 0 then -(unitsNear n.natAbs : Int) else unitsNear n.natAbs) := by
  unfold ofInt ofFraction ofUnits unitsNear
  split
  · rename_i hlt
    rw [Nat.min_eq_left (Nat.le_of_lt hlt)]
    simp only [key?, decide_eq_true_eq]
  · rename_i hge
    rw [Nat.min_eq_right (Nat.le_of_not_lt hge)]
    simp only [key?, decide_eq_true_eq]

theorem unitsNear_mono {m n : Nat} (h : m ≤ n) : unitsNear m ≤ unitsNear n := by
  have hmono := nearestUnits_mono (show 0 < 53 by decide) 1074 1 h
  unfold unitsNear
  omega

theorem nearestUnits_of_le {n : Nat} (h : n ≤ 2 ^ 53) (scale : Nat) :
    nearestUnits 53 scale n 1 = n * 2 ^ scale := by
  rcases Nat.eq_or_lt_of_le h with rfl | hlt
  · have hexact := nearestUnits_exact (show 1 < 2 ^ 53 by decide) 53 scale
    rwa [Nat.one_mul] at hexact
  · have hexact := nearestUnits_exact hlt 0 scale
    rwa [Nat.pow_zero, Nat.mul_one] at hexact

theorem mul_le_overflow {n scale : Nat} (h : n ≤ 2 ^ 53) (hscale : scale ≤ 1074) :
    n * 2 ^ scale ≤ overflow := by
  have hle : n * 2 ^ scale ≤ 2 ^ (53 + scale) := by
    rw [Nat.pow_add]
    exact Nat.mul_le_mul_right _ h
  unfold overflow
  apply Nat.le_trans hle
  apply Nat.pow_le_pow_right
  · decide
  · omega

/-- Up to `2 ^ 53` natural numbers are doubles. -/
theorem unitsNear_of_le {n : Nat} (h : n ≤ 2 ^ 53) : unitsNear n = n * 2 ^ 1074 := by
  rw [unitsNear, nearestUnits_of_le h, Nat.min_eq_left (mul_le_overflow h (Nat.le_refl 1074))]

/-- Of two integers the greater one has no smaller double next to it. -/
theorem key_le_of_le {m n x y : Int} (h : m ≤ n) (hx : (ofInt m).key? = some x)
    (hy : (ofInt n).key? = some y) : x ≤ y := by
  rw [key?_ofInt, Option.some.injEq] at hx hy
  subst hx hy
  -- Below zero the smaller integer is the one of greater size.
  by_cases hm : m < 0
  · by_cases hn : n < 0
    · have hmono := unitsNear_mono (show n.natAbs ≤ m.natAbs by omega)
      rw [if_pos hm, if_pos hn]
      omega
    · rw [if_pos hm, if_neg hn]
      omega
  · have hmono := unitsNear_mono (show m.natAbs ≤ n.natAbs by omega)
    rw [if_neg hm, if_neg (by omega)]
    omega

theorem signed_natAbs_mul (n : Int) (unit : Nat) :
    (if n < 0 then -((n.natAbs * unit : Nat) : Int) else (n.natAbs * unit : Nat)) = n * unit := by
  split
  · rename_i hneg
    rw [Int.natCast_mul, ← Int.neg_mul, Int.ofNat_natAbs_of_nonpos (by omega), Int.neg_neg]
  · rename_i hnonneg
    rw [Int.natCast_mul, Int.natAbs_of_nonneg (by omega)]

/-- Integers up to `2 ^ 53` in size are doubles, so they have different ones next to them. -/
theorem eq_of_key?_eq {m n : Int} (hm : m.natAbs ≤ 2 ^ 53) (hn : n.natAbs ≤ 2 ^ 53)
    (h : (ofInt m).key? = (ofInt n).key?) : m = n := by
  obtain ⟨unit, hunit, hkey⟩ : ∃ unit : Nat, 0 < unit ∧
      ∀ k : Int, k.natAbs ≤ 2 ^ 53 → (ofInt k).key? = some (k * unit) := by
    refine ⟨2 ^ 1074, Nat.two_pow_pos 1074, fun k hk => ?_⟩
    rw [key?_ofInt, unitsNear_of_le hk, signed_natAbs_mul]
  rw [hkey m hm, hkey n hn, Option.some.injEq] at h
  exact Int.eq_of_mul_eq_mul_right (by omega) h

end Binary64

/-! ## Numbers of all types. -/

namespace Number

/-- Whether a number is not greater than another. -/
def AtMost (a b : Number) : Prop := (a.compare? b).any Ordering.isLE = true

instance (a b : Number) : Decidable (a.AtMost b) := inferInstanceAs (Decidable (_ = true))

/-- Whether the number in the middle is a double to which a greater and a smaller integer are both
rounded. One of the two is then greater than `2 ^ 53` in size. -/
inductive Conflated : Number → Number → Number → Prop
  | intro {a c : Number} {m n : Int} {x : Binary64} (ha : a.toInt? = some m)
      (hc : c.toInt? = some n) (hlt : n < m) (hsize : 2 ^ 53 < m.natAbs ∨ 2 ^ 53 < n.natAbs)
      (hm : (Binary64.ofInt m).same x = true) (hn : (Binary64.ofInt n).same x = true) :
      Conflated a (.double x) c

variable {a b c : Number} {x y : Int}

theorem exists_key? (h : a ≠ .double .nan) : ∃ x, a.toDouble.key? = some x := by
  cases a with
  | signed n => exact ⟨_, Binary64.key?_ofInt n.toInt⟩
  | unsigned n => exact ⟨_, Binary64.key?_ofInt n.toNat⟩
  | double d => exact Binary64.exists_key? fun hnan => h (congrArg double hnan)

/-- Where a double takes part, the places of the doubles are compared. -/
theorem compare?_of_key? (h : a.toInt? = none ∨ b.toInt? = none) (hx : a.toDouble.key? = some x)
    (hy : b.toDouble.key? = some y) : a.compare? b = some (compare x y) := by
  have hdouble : a.compare? b = a.toDouble.compare? b.toDouble := by
    unfold compare?
    rcases h with h | h
    · simp [h]
    · rw [h]
      cases a.toInt? <;> rfl
  simp [hdouble, Binary64.compare?, hx, hy]

/-- Of two numbers one is less than the other, or they are equal, whichever is asked first. -/
theorem exists_compare? (ha : a ≠ .double .nan) (hb : b ≠ .double .nan) :
    ∃ ordering, a.compare? b = some ordering ∧ b.compare? a = some ordering.swap := by
  have hswap : ∀ i j : Int, compare j i = (compare i j).swap := fun i j => Std.OrientedCmp.eq_swap
  obtain ⟨x, hx⟩ := exists_key? ha
  obtain ⟨y, hy⟩ := exists_key? hb
  cases hm : a.toInt? with
  | none =>
    refine ⟨compare x y, compare?_of_key? (.inl hm) hx hy, ?_⟩
    rw [compare?_of_key? (.inr hm) hy hx, hswap]
  | some m =>
    cases hn : b.toInt? with
    | none =>
      refine ⟨compare x y, compare?_of_key? (.inr hn) hx hy, ?_⟩
      rw [compare?_of_key? (.inl hn) hy hx, hswap]
    | some n =>
      refine ⟨compare m n, compare?_of_toInt? hm hn, ?_⟩
      rw [compare?_of_toInt? hn hm, hswap]

theorem atMost_iff_of_toInt? {m n : Int} (hm : a.toInt? = some m) (hn : b.toInt? = some n) :
    a.AtMost b ↔ m ≤ n := by
  rw [AtMost, compare?_of_toInt? hm hn]
  exact Int.isLE_compare

theorem atMost_iff_of_key? (h : a.toInt? = none ∨ b.toInt? = none)
    (hx : a.toDouble.key? = some x) (hy : b.toDouble.key? = some y) : a.AtMost b ↔ x ≤ y := by
  rw [AtMost, compare?_of_key? h hx hy]
  exact Int.isLE_compare

/-- Numbers in order have doubles next to them in the same order. -/
theorem AtMost.key_le (h : a.AtMost b) (hx : a.toDouble.key? = some x)
    (hy : b.toDouble.key? = some y) : x ≤ y := by
  cases hm : a.toInt? with
  | none => exact (atMost_iff_of_key? (.inl hm) hx hy).1 h
  | some m =>
    cases hn : b.toInt? with
    | none => exact (atMost_iff_of_key? (.inr hn) hx hy).1 h
    | some n =>
      rw [toDouble_of_toInt? hm] at hx
      rw [toDouble_of_toInt? hn] at hy
      exact Binary64.key_le_of_le ((atMost_iff_of_toInt? hm hn).1 h) hx hy

theorem exists_double (h : a.toInt? = none) : ∃ d, a = double d ∧ a.toDouble = d := by
  cases a with
  | double d => exact ⟨d, rfl, rfl⟩
  | signed n => cases h
  | unsigned n => cases h

theorem same_of_key? {d e : Binary64} (hd : d.key? = some x) (he : e.key? = some x) :
    d.same e = true := by
  simp [Binary64.same, Binary64.compare?, hd, he]

/-- Integers in the wrong order at the place of one double are rounded to it. -/
theorem conflated_of_lt {m n : Int} (hm : a.toInt? = some m) (hb : b.toInt? = none)
    (hn : c.toInt? = some n) (hlt : n < m) (hx : a.toDouble.key? = some x)
    (hy : b.toDouble.key? = some x) (hz : c.toDouble.key? = some x) : Conflated a b c := by
  obtain ⟨d, rfl, hd⟩ := exists_double hb
  rw [toDouble_of_toInt? hm] at hx
  rw [hd] at hy
  rw [toDouble_of_toInt? hn] at hz
  refine .intro hm hn hlt ?_ (same_of_key? hx hy) (same_of_key? hz hy)
  -- Smaller integers would have doubles of their own.
  by_contra hsmall
  rw [not_or, Nat.not_lt, Nat.not_lt] at hsmall
  have heq := Binary64.eq_of_key?_eq hsmall.1 hsmall.2 (hx.trans hz.symm)
  omega

/-- The order of numbers is transitive, except at a double to which two integers are rounded. -/
theorem atMost_trans_iff (ha : a ≠ .double .nan) (hb : b ≠ .double .nan) (hc : c ≠ .double .nan)
    (hab : a.AtMost b) (hbc : b.AtMost c) : a.AtMost c ↔ ¬Conflated a b c := by
  obtain ⟨x, hx⟩ := exists_key? ha
  obtain ⟨y, hy⟩ := exists_key? hb
  obtain ⟨z, hz⟩ := exists_key? hc
  have hxy : x ≤ y := hab.key_le hx hy
  have hyz : y ≤ z := hbc.key_le hy hz
  constructor
  · rintro hac ⟨hm, hn, hlt, -, -, -⟩
    have hle := (atMost_iff_of_toInt? hm hn).1 hac
    omega
  intro hnot
  cases hm : a.toInt? with
  | none => exact (atMost_iff_of_key? (.inl hm) hx hz).2 (by omega)
  | some m =>
    cases hn : c.toInt? with
    | none => exact (atMost_iff_of_key? (.inr hn) hx hz).2 (by omega)
    | some n =>
      rw [atMost_iff_of_toInt? hm hn]
      cases hk : b.toInt? with
      | some k =>
        have hmk := (atMost_iff_of_toInt? hm hk).1 hab
        have hkn := (atMost_iff_of_toInt? hk hn).1 hbc
        omega
      | none =>
        -- A double between integers in the wrong order leaves no room for their own doubles.
        by_contra hlt
        have hzx : z ≤ x := by
          have hz' := hz
          have hx' := hx
          rw [toDouble_of_toInt? hn] at hz'
          rw [toDouble_of_toInt? hm] at hx'
          exact Binary64.key_le_of_le (by omega) hz' hx'
        obtain rfl : y = x := by omega
        obtain rfl : z = y := by omega
        exact hnot (conflated_of_lt hm hk hn (by omega) hx hy hz)

/-- Numbers are equal if neither is greater than the other. -/
theorem compare?_eq_iff_atMost (ha : a ≠ .double .nan) (hb : b ≠ .double .nan) :
    a.compare? b = some .eq ↔ a.AtMost b ∧ b.AtMost a := by
  obtain ⟨ordering, hab, hba⟩ := exists_compare? ha hb
  rw [AtMost, AtMost, hab, hba]
  cases ordering <;> decide

/-- Numbers that can be compared are in an order, in which several may be equal, but for integers
that are rounded to the same double. -/
theorem compare?_isOrder (ha : a ≠ .double .nan) (hb : b ≠ .double .nan)
    (hc : c ≠ .double .nan) :
    (∃ ordering, a.compare? b = some ordering ∧ b.compare? a = some ordering.swap) ∧
      (a.AtMost b → b.AtMost c → (a.AtMost c ↔ ¬Conflated a b c)) ∧
      (a.compare? b = some .eq → b.compare? c = some .eq →
        (a.compare? c = some .eq ↔ ¬Conflated a b c ∧ ¬Conflated c b a)) := by
  refine ⟨exists_compare? ha hb, atMost_trans_iff ha hb hc, fun hab hbc => ?_⟩
  rw [compare?_eq_iff_atMost ha hb] at hab
  rw [compare?_eq_iff_atMost hb hc] at hbc
  rw [compare?_eq_iff_atMost ha hc, atMost_trans_iff ha hb hc hab.1 hbc.1,
    atMost_trans_iff hc hb ha hbc.2 hab.2]

/-- The double `2 ^ 63` is next to the greatest signed integer and equal to the unsigned one behind
it. Both are compared with it as doubles, and with each other as they are. -/
theorem compare?_isOrder_signedLimit :
    let a := signed 9223372036854775807
    let b := double (.ofInt 9223372036854775808)
    let c := unsigned 9223372036854775808
    (a ≠ .double .nan ∧ b ≠ .double .nan ∧ c ≠ .double .nan) ∧
      (a.AtMost b ∧ b.AtMost c ∧ a.AtMost c) ∧ ¬Conflated a b c ∧ Conflated c b a := by
  intro a b c
  have ha : a ≠ .double .nan := by decide +kernel
  have hb : b ≠ .double .nan := by decide +kernel
  have hc : c ≠ .double .nan := by decide +kernel
  have hab : a.AtMost b := by decide +kernel
  have hbc : b.AtMost c := by decide +kernel
  have hac : a.AtMost c := by decide +kernel
  have hcb : c.AtMost b := by decide +kernel
  have hba : b.AtMost a := by decide +kernel
  have hca : ¬c.AtMost a := by decide +kernel
  refine ⟨⟨ha, hb, hc⟩, ⟨hab, hbc, hac⟩, ?_, ?_⟩
  · exact ((compare?_isOrder ha hb hc).2.1 hab hbc).1 hac
  · by_contra hnot
    exact hca (((compare?_isOrder hc hb ha).2.1 hcb hba).2 hnot)

/-- The integer `2 ^ 53 + 1` is not above the double `2 ^ 53`, and that not above the integer
`2 ^ 53`. -/
theorem atMost_not_transitive :
    ¬∀ a b c : Number, a ≠ .double .nan → b ≠ .double .nan → c ≠ .double .nan →
      a.AtMost b → b.AtMost c → a.AtMost c := by
  intro h
  have hle := h (signed 9007199254740993) (double (.ofInt 9007199254740992))
    (signed 9007199254740992) (by decide +kernel) (by decide +kernel) (by decide +kernel)
    (by decide +kernel) (by decide +kernel)
  exact absurd hle (by decide +kernel)

end Number

end FilterQuery
