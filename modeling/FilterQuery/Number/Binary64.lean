import FilterQuery.Number.Rounding

/-! # Double-precision numbers

A finite double is a whole number of units of `2 ^ -1074`, with a sign; that number has a
significand of at most 53 binary digits.  All comparisons are made on these exact integers.

## Key results

* `compare?_eq_none_iff`: two doubles fail to compare only if one of them is not a number -/

namespace FilterQuery

/-- The number of units of `2 ^ -1074` that double precision can no longer hold. -/
def Binary64.overflow : Nat := Nat.pow 2 2098

/-- The numbers of units of `2 ^ -1074` that double precision holds exactly. -/
def Binary64.Representable (units : Nat) : Prop :=
  units < Binary64.overflow ∧
    ∃ significand shift, significand < Nat.pow 2 53 ∧ units = significand * Nat.pow 2 shift

/-- A double-precision number. -/
inductive Binary64 where
  | nan
  | infinite (negative : Bool)
  /-- `units` counts units of `2 ^ -1074`. -/
  | finite (negative : Bool) (units : Nat) (representable : Binary64.Representable units)
deriving DecidableEq

namespace Binary64

theorem representable_zero : Representable 0 :=
  ⟨by unfold overflow; apply Nat.pow_pos; decide, 0, 0, by decide, rfl⟩

/-- Positive zero. -/
def zero : Binary64 := .finite false 0 representable_zero

instance : Inhabited Binary64 := ⟨zero⟩

/-- A number of units with a short significand as a double; beyond the range it is infinite. -/
def ofUnits (negative : Bool) (units : Nat)
    (h : ∃ significand shift, significand < Nat.pow 2 53 ∧ units = significand * Nat.pow 2 shift) :
    Binary64 :=
  if hlt : units < overflow then .finite negative units ⟨hlt, h⟩ else .infinite negative

/-- The double nearest to the fraction `num / den`. -/
def ofFraction (negative : Bool) (num den : Nat) : Binary64 :=
  ofUnits negative (nearestUnits 53 1074 num den) (nearestUnits_eq (by decide) 1074 num den)

/-- The power of two by which units of single precision exceed those of double precision. -/
def singleShift : Nat := 925

theorem nearestSingle_eq (num den : Nat) :
    ∃ significand shift, significand < Nat.pow 2 53 ∧
      nearestUnits 24 149 num den * Nat.pow 2 singleShift = significand * Nat.pow 2 shift := by
  obtain ⟨m, q, hm, h⟩ := nearestUnits_eq (show 0 < 24 by decide) 149 num den
  refine ⟨m, q + singleShift, Nat.lt_trans hm (by decide), ?_⟩
  rw [h, Nat.mul_assoc, Nat.pow_eq, Nat.pow_eq, Nat.pow_eq, Nat.pow_add]

/-- The single-precision number nearest to the fraction `num / den`, as a double. -/
def ofFractionSingle (negative : Bool) (num den : Nat) : Binary64 :=
  if nearestUnits 24 149 num den < Nat.pow 2 277 then
    ofUnits negative (nearestUnits 24 149 num den * Nat.pow 2 singleShift)
      (nearestSingle_eq num den)
  else .infinite negative

/-- The double nearest to an integer. -/
def ofInt (n : Int) : Binary64 := ofFraction (n < 0) n.natAbs 1

/-- The place of a double among the integers, where infinities stand just outside the range of the
finite ones; `none` for what is not a number.  Both zeros have the same place. -/
def key? : Binary64 → Option Int
  | nan => none
  | infinite negative => some (if negative then -overflow else overflow)
  | finite negative units _ => some (if negative then -units else units)

/-- Numerical order of two doubles. -/
def compare? (a b : Binary64) : Option Ordering :=
  match a.key?, b.key? with
  | some x, some y => some (compare x y)
  | _, _ => none

/-- Numerical equality of two doubles: zeros are equal, and what is not a number differs from
everything. -/
def same (a b : Binary64) : Bool := a.compare? b == some .eq

theorem key?_eq_none_iff {a : Binary64} : a.key? = none ↔ a = nan := by
  cases a with
  | nan => exact iff_of_true rfl rfl
  | infinite negative => exact iff_of_false nofun nofun
  | finite negative units h => exact iff_of_false nofun nofun

theorem exists_key? {a : Binary64} (h : a ≠ nan) : ∃ i, a.key? = some i :=
  Option.ne_none_iff_exists'.1 fun hnone => h (key?_eq_none_iff.1 hnone)

/-- Two doubles fail to compare only if one of them is not a number. -/
theorem compare?_eq_none_iff {a b : Binary64} : a.compare? b = none ↔ a = nan ∨ b = nan := by
  rw [← key?_eq_none_iff, ← key?_eq_none_iff]
  unfold compare?
  cases a.key? <;> cases b.key? <;> simp

end Binary64

end FilterQuery
