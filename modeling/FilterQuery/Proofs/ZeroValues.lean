import FilterQuery.Matching.Test
import FilterQuery.Proofs.NumberOrder

/-!
# Zeros of kinds

A comparison with nothing asks whether a value is the zero of the kind of its field. `v.IsZero kind`
spells out which values that are: the empty text, the number zero in each machine type and with either
sign, `false`, the moment that time is counted from, and the identifier without a bit. A value of
another kind than the field's, or a missing one, is no zero.

## Key results

- `Number.compare?_zero_eq_iff`: a number equals zero exactly if it is one of the zeros
- `Value.isZero_zero`: the zero of each kind
- `Test.accepts_zero_iff`: what equals the zero of a kind is a zero of that kind
-/

namespace FilterQuery

/-! ## Zeros among numbers. -/

namespace Binary64

/-- Whether a double is one of the two zeros. -/
def IsZero : Binary64 → Prop
  | finite _ units _ => units = 0
  | _ => False

theorem key?_eq_zero_iff {x : Binary64} : x.key? = some 0 ↔ x.IsZero := by
  cases x with
  | nan => exact iff_of_false (fun h => by cases h) id
  | infinite negative =>
    have hoverflow : 0 < overflow := by
      unfold overflow
      apply Nat.pow_pos
      decide
    refine iff_of_false (fun h => ?_) id
    have hkey := Option.some.inj h
    cases negative <;> simp only [Bool.false_eq_true, if_true, if_false] at hkey <;> omega
  | finite negative units h =>
    rw [key?, Option.some.injEq, IsZero]
    cases negative <;> simp

theorem key?_ofInt_zero : (ofInt 0).key? = some 0 := by
  have hnear : unitsNear 0 = 0 := (unitsNear_of_le (Nat.zero_le _)).trans (Nat.zero_mul _)
  rw [key?_ofInt, Int.natAbs_zero, hnear]
  rfl

end Binary64

namespace Number

/-- Whether a number is zero. -/
def IsZero : Number → Prop
  | signed n => n.toInt = 0
  | unsigned n => n.toNat = 0
  | double x => x.IsZero

/-- The numbers that equal the signed zero are the zeros of all machine types. -/
theorem compare?_zero_eq_iff {n : Number} : n.compare? (.signed 0) = some .eq ↔ n.IsZero := by
  have hzero : (signed 0).toInt? = some 0 := rfl
  cases n with
  | signed n =>
    rw [compare?_of_toInt? rfl hzero, Option.some.injEq, Int.compare_eq_eq, IsZero]
  | unsigned n =>
    rw [compare?_of_toInt? rfl hzero, Option.some.injEq, Int.compare_eq_eq, IsZero]
    omega
  | double x =>
    -- The zero is compared as a double.
    rw [IsZero, ← Binary64.key?_eq_zero_iff]
    cases hkey : x.key? with
    | none =>
      have hnan : (double x).compare? (.signed 0) = none :=
        Binary64.compare?_eq_none_iff.2 (.inl (Binary64.key?_eq_none_iff.1 hkey))
      simp [hnan]
    | some place =>
      have hdouble : (double x).toDouble.key? = some place := hkey
      have hsigned : (signed 0).toDouble.key? = some 0 := by
        rw [toDouble_of_toInt? hzero, Binary64.key?_ofInt_zero]
      rw [compare?_of_key? (.inl rfl) hdouble hsigned, Option.some.injEq, Option.some.injEq,
        Int.compare_eq_eq]

end Number

/-! ## Zeros among values. -/

namespace Value

/-- Whether a value is a zero of the kind: the empty text, the number zero, `false`, the moment that
time is counted from, or the identifier without a bit. -/
def IsZero (v : Value) (kind : FieldKind) : Prop :=
  match kind, v with
  | .string, string s => s = ""
  | .number, number n => n.IsZero
  | .bool, bool b => b = false
  | .timestamp, timestamp t => t.millis.toInt = 0
  | .uuid, uuid u => u.bits = 0
  | _, _ => False

theorem isZero_zero (kind : FieldKind) : (zero kind).IsZero kind := by
  cases kind <;> rfl

/-- The values that compare as equal to the zero of a kind are its zeros. -/
theorem compareSet?_zero_eq_iff {v : Value} {kind : FieldKind} :
    v.compareSet? false (zero kind) = some .eq ↔ v.IsZero kind := by
  cases kind <;> cases v
  case string.string s =>
    have heq : compareTexts s.toList "".toList = .eq ↔ s.toList = "".toList :=
      Std.compare_eq_iff_eq
    rw [zero, compareSet?, if_neg (by decide), Option.some.injEq, heq, String.toList_inj]
    rfl
  case number.number n => exact Number.compare?_zero_eq_iff
  case bool.bool b =>
    cases b with
    | false => exact iff_of_true rfl rfl
    | true => exact iff_of_false (by decide) Bool.noConfusion
  case timestamp.timestamp t =>
    rw [zero, compareSet?, Option.some.injEq, Timestamp.compareTime, Int.compare_eq_eq]
    rfl
  case uuid.uuid u =>
    rw [zero, compareSet?, Option.some.injEq, Uuid.compareBits, Nat.compare_eq_eq]
    exact BitVec.toNat_inj
  -- Values of different kinds are not comparable.
  all_goals simp [zero, compareSet?, IsZero]

end Value

/-- The values that equal the zero of a kind are its zeros. -/
theorem Test.accepts_zero_iff {v : Value} {kind : FieldKind} :
    (Test.compare .equal (.zero kind) false).accepts v = true ↔ v.IsZero kind := by
  rw [← Value.compareSet?_zero_eq_iff]
  simp only [Test.accepts, Operator.isNegated, holdsPositive, Operator.isText]
  cases habsent : v.isAbsent with
  | false => cases v.compareSet? false (.zero kind) <;> simp [Operator.admits]
  | true =>
    cases v with
    | absent => simp [Value.compareSet?]
    | _ => cases habsent

end FilterQuery
