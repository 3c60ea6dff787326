import FilterQuery.Results.SortKey

/-!
# Values that can be put in order

Not all values can be compared with each other, and what is not a number cannot be compared even
with itself. Within a family of values the order is one: texts by code points, `false` before
`true`, moments in time, identifiers by their bits, integers of either type and doubles by their
size. Keys put such values in order in either direction, with missing values last.

## Key results

- `ValueFamily.Has.compareSet?_eq_order`, `ValueFamily.Has.below_iff_order`: values of one family
  compare as they stand in its order
- `SortKey.compare_eq_order`: a key compares values of one family by a total order
- `SortKey.precedes_iff_order`: which value that order puts first
-/

namespace FilterQuery

/-! ## Families of values. -/

/-- A family of values that can be put in order. -/
inductive ValueFamily where
  | string
  | bool
  | timestamp
  | uuid
  /-- Signed and unsigned integers. -/
  | integer
  /-- Doubles, except for what is not a number. -/
  | double

/-- Whether a value is one of a family. -/
inductive ValueFamily.Has : ValueFamily → Value → Prop where
  | string (s : String) : Has .string (.string s)
  | bool (b : Bool) : Has .bool (.bool b)
  | timestamp (t : Timestamp) : Has .timestamp (.timestamp t)
  | uuid (u : Uuid) : Has .uuid (.uuid u)
  | integer {n : Number} {i : Int} (h : n.toInt? = some i) : Has .integer (.number n)
  | double {x : Binary64} (h : x ≠ .nan) : Has .double (.number (.double x))

namespace Value

/-- Whether a value comes before another one of its family. -/
inductive Below : Value → Value → Prop where
  | string {s t : String} (h : s < t) : Below (.string s) (.string t)
  | bool : Below (.bool false) (.bool true)
  | timestamp {t u : Timestamp} (h : t.millis < u.millis) : Below (.timestamp t) (.timestamp u)
  | uuid {u v : Uuid} (h : u.bits < v.bits) : Below (.uuid u) (.uuid v)
  | integer {m n : Number} {i j : Int} (hm : m.toInt? = some i) (hn : n.toInt? = some j)
      (h : i < j) : Below (.number m) (.number n)
  | double {x y : Binary64} {i j : Int} (hx : x.key? = some i) (hy : y.key? = some j)
      (h : i < j) : Below (.number (.double x)) (.number (.double y))

/-- The place among the integers of a value that is no text. -/
def place : Value → Int
  | bool b => if b then 1 else 0
  | timestamp t => t.millis.toInt
  | uuid u => u.bits.toNat
  | number n => n.toInt?.getD (n.toDouble.key?.getD 0)
  | _ => 0

theorem isAbsent_iff {v : Value} : v.isAbsent = true ↔ v = absent := by
  cases v <;> simp [isAbsent]

/-- Values that are missing are greater than others. -/
theorem compare_isAbsent_eq_lt_iff {v w : Value} :
    compare v.isAbsent w.isAbsent = .lt ↔ v ≠ absent ∧ w = absent := by
  rw [ne_eq, ← isAbsent_iff, ← isAbsent_iff]
  cases v.isAbsent <;> cases w.isAbsent <;> decide

theorem place_of_toInt? {n : Number} {i : Int} (h : n.toInt? = some i) : (number n).place = i := by
  simp [place, h]

theorem place_of_key? {x : Binary64} {i : Int} (h : x.key? = some i) :
    (number (.double x)).place = i := by
  simp [place, Number.toInt?, Number.toDouble, h]

end Value

namespace ValueFamily

/-- An order of all values, which is the right one for the values of the family. -/
def order : ValueFamily → Value → Value → Ordering
  | string => compareOn fun v => v.print?.getD []
  | _ => compareOn Value.place

instance (family : ValueFamily) : Std.TransCmp family.order := by
  cases family <;> exact inferInstanceAs (Std.TransCmp (compareOn _))

theorem compare_natCast (m n : Nat) : compare (m : Int) n = compare m n := by
  cases h : compare m n with
  | lt => exact Int.compare_eq_lt.2 (Int.ofNat_lt.2 (Nat.compare_eq_lt.1 h))
  | eq => exact Int.compare_eq_eq.2 (Int.ofNat_inj.2 (Nat.compare_eq_eq.1 h))
  | gt => exact Int.compare_eq_gt.2 (Int.ofNat_lt.2 (Nat.compare_eq_gt.1 h))

theorem compareTexts_eq_lt_iff {as bs : List Char} : compareTexts as bs = .lt ↔ as < bs := by
  unfold compareTexts
  induction as generalizing bs with
  | nil => cases bs <;> simp
  | cons a as ih =>
    cases bs with
    | nil => simp
    | cons b bs =>
      have hchar : compare a b = .lt ↔ a < b := compareOfLessAndEq_eq_lt
      rw [List.compare_cons_cons, List.cons_lt_cons_iff, Ordering.then_eq_lt, ih, hchar,
        Std.compare_eq_iff_eq]

variable {family : ValueFamily} {v w : Value}

theorem Has.isAbsent_eq_false (h : family.Has v) : v.isAbsent = false := by
  cases h <;> rfl

theorem Has.ne_absent (h : family.Has v) : v ≠ .absent := by
  cases h <;> exact nofun

/-- Values of one family can be compared. -/
theorem Has.compareSet?_eq_order (hv : family.Has v) (hw : family.Has w) :
    v.compareSet? false w = some (family.order v w) := by
  cases hv with
  | string s =>
    cases hw with
    | string t => rfl
  | bool b =>
    cases hw with
    | bool c => cases b <;> cases c <;> rfl
  | timestamp t =>
    cases hw with
    | timestamp u => rfl
  | uuid u =>
    cases hw with
    | uuid v => exact congrArg some (compare_natCast u.bits.toNat v.bits.toNat).symm
  | integer hm =>
    cases hw with
    | integer hn =>
      change Number.compare? _ _ = some (compare (Value.place _) (Value.place _))
      rw [Number.compare?_of_toInt? hm hn, Value.place_of_toInt? hm, Value.place_of_toInt? hn]
  | @double x hx =>
    cases hw with
    | @double y hy =>
      obtain ⟨i, hi⟩ := Binary64.exists_key? hx
      obtain ⟨j, hj⟩ := Binary64.exists_key? hy
      change x.compare? y = some (compare (Value.place _) (Value.place _))
      rw [Value.place_of_key? hi, Value.place_of_key? hj]
      simp [Binary64.compare?, hi, hj]

theorem Has.compare?_eq_order (hv : family.Has v) (hw : family.Has w) :
    v.compare? w = some (family.order v w) := by
  rw [← hv.compareSet?_eq_order hw]
  cases hv <;> cases hw <;> rfl

/-- What comes before another value of the family is what its order says. -/
theorem Has.below_iff_order (hv : family.Has v) (hw : family.Has w) :
    v.Below w ↔ family.order v w = .lt := by
  cases hv with
  | string s =>
    cases hw with
    | string t =>
      change _ ↔ compareTexts s.toList t.toList = .lt
      rw [compareTexts_eq_lt_iff]
      exact ⟨fun | .string h => h, .string⟩
  | bool b =>
    cases hw with
    | bool c =>
      cases b <;> cases c
      case false.true => exact iff_of_true .bool rfl
      all_goals exact iff_of_false nofun nofun
  | timestamp t =>
    cases hw with
    | timestamp u =>
      change _ ↔ compare t.millis.toInt u.millis.toInt = .lt
      rw [Int.compare_eq_lt, ← Int64.lt_iff_toInt_lt]
      exact ⟨fun | .timestamp h => h, .timestamp⟩
  | uuid u =>
    cases hw with
    | uuid v =>
      change _ ↔ compare (u.bits.toNat : Int) v.bits.toNat = .lt
      rw [Int.compare_eq_lt, Int.ofNat_lt, ← BitVec.lt_def]
      exact ⟨fun | .uuid h => h, .uuid⟩
  | integer hm =>
    cases hw with
    | integer hn =>
      change _ ↔ compare (Value.place _) (Value.place _) = .lt
      rw [Int.compare_eq_lt]
      refine ⟨fun h => ?_, fun h => .integer hm hn ?_⟩
      · cases h with
        | integer hi hj h => rwa [Value.place_of_toInt? hi, Value.place_of_toInt? hj]
        | double => cases hm
      · rwa [Value.place_of_toInt? hm, Value.place_of_toInt? hn] at h
  | double hx =>
    cases hw with
    | double hy =>
      obtain ⟨i, hi⟩ := Binary64.exists_key? hx
      obtain ⟨j, hj⟩ := Binary64.exists_key? hy
      change _ ↔ compare (Value.place _) (Value.place _) = .lt
      rw [Int.compare_eq_lt]
      refine ⟨fun h => ?_, fun h => .double hi hj ?_⟩
      · cases h with
        | integer hm => cases hm
        | double hi hj h => rwa [Value.place_of_key? hi, Value.place_of_key? hj]
      · rwa [Value.place_of_key? hi, Value.place_of_key? hj] at h

end ValueFamily

/-! ## What keys make of values. -/

/-- Another direction of a total order is one as well. -/
theorem Direction.transCmp_apply {α : Type} (cmp : α → α → Ordering) [Std.TransCmp cmp]
    (direction : Direction) : Std.TransCmp fun a b => direction.apply (cmp a b) := by
  cases direction with
  | ascending => exact inferInstanceAs (Std.TransCmp cmp)
  | descending =>
    have hswap : (fun a b => (cmp a b).swap) = fun a b => cmp b a := by
      funext a b
      exact Std.OrientedCmp.eq_swap.symm
    change Std.TransCmp fun a b => (cmp a b).swap
    rw [hswap]
    exact Std.TransCmp.opposite

namespace SortKey

/-- Whether a key puts a value before another.  Missing values come last, unless the key asks
whether there is a value. -/
def Precedes (key : SortKey) (v w : Value) : Prop :=
  match key.basis, key.direction with
  | .value, .ascending => v.Below w ∨ v ≠ .absent ∧ w = .absent
  | .value, .descending => w.Below v ∨ v ≠ .absent ∧ w = .absent
  | .isSet, .ascending | .isNotSet, .descending => v = .absent ∧ w ≠ .absent
  | .isSet, .descending | .isNotSet, .ascending => v ≠ .absent ∧ w = .absent

/-- A total order of all values, which is the one of the key for missing values and those of the
family. -/
def order (key : SortKey) (family : ValueFamily) : Value → Value → Ordering :=
  match key.basis with
  | .value =>
    compareLex (compareOn Value.isAbsent) fun v w => key.direction.apply (family.order v w)
  | .isSet => fun v w => key.direction.apply (compareOn Value.isAbsent w v)
  | .isNotSet => fun v w => key.direction.apply (compareOn Value.isAbsent v w)

instance (key : SortKey) (family : ValueFamily) : Std.TransCmp (key.order family) := by
  obtain ⟨member, direction, basis⟩ := key
  cases basis with
  | value =>
    have hfamily := direction.transCmp_apply family.order
    exact inferInstanceAs (Std.TransCmp (compareLex _ _))
  | isSet =>
    have hopposite : Std.TransCmp fun v w => compareOn Value.isAbsent w v := Std.TransCmp.opposite
    exact direction.transCmp_apply fun v w => compareOn Value.isAbsent w v
  | isNotSet => exact direction.transCmp_apply (compareOn Value.isAbsent)

/-- Whether a key can compare a value with those of the family: what matters is the value, and not
only whether there is one. -/
def Takes (key : SortKey) (family : ValueFamily) (v : Value) : Prop :=
  key.basis = .value → v = .absent ∨ family.Has v

variable {key : SortKey} {family : ValueFamily} {v w : Value}

/-- By values, those that are missing come last, and the others stand in the order of their
family. -/
theorem order_of_value (hbasis : key.basis = .value) (v w : Value) :
    key.order family v w =
      (Ord.compare v.isAbsent w.isAbsent).then (key.direction.apply (family.order v w)) := by
  simp [order, hbasis, compareLex, compareOn]

/-- A key compares values as its order does. -/
theorem compare_eq_order (hv : key.Takes family v) (hw : key.Takes family w) :
    key.compare v w = key.order family v w := by
  cases hbasis : key.basis with
  | value =>
    have hcompare : key.compare v w = (compareValues? key.direction v w).getD .eq := by
      simp [compare, hbasis]
    rw [hcompare]
    rcases hv hbasis with rfl | hv
    · rcases hw hbasis with rfl | hw
      · exact Std.ReflCmp.compare_self.symm
      · rw [order_of_value hbasis, hw.isAbsent_eq_false]
        cases hw <;> rfl
    · rcases hw hbasis with rfl | hw
      · rw [order_of_value hbasis, hv.isAbsent_eq_false]
        cases hv <;> rfl
      · rw [order_of_value hbasis, compareValues?, hv.compare?_eq_order hw, hv.isAbsent_eq_false,
          hw.isAbsent_eq_false]
        rfl
  | isSet | isNotSet =>
    simp only [compare, order, hbasis, compareOn]
    cases v.isAbsent <;> cases w.isAbsent <;> rfl

theorem precedes_iff_of_has (hbasis : key.basis = .value) (hv : family.Has v)
    (hw : family.Has w) : key.Precedes v w ↔ key.direction.apply (family.order v w) = .lt := by
  have hset : ¬(v ≠ .absent ∧ w = .absent) := fun h => hw.ne_absent h.2
  unfold Precedes
  rw [hbasis]
  cases key.direction with
  | ascending => exact (or_iff_left hset).trans (hv.below_iff_order hw)
  | descending =>
    change w.Below v ∨ _ ↔ (family.order v w).swap = .lt
    rw [or_iff_left hset, hw.below_iff_order hv, ← Std.OrientedCmp.eq_swap]

/-- A key puts that value first which its order does. -/
theorem precedes_iff_order (hv : key.Takes family v) (hw : key.Takes family w) :
    key.Precedes v w ↔ key.order family v w = .lt := by
  obtain ⟨member, direction, basis⟩ := key
  cases basis with
  | value =>
    rw [order_of_value rfl]
    -- Missing values are compared in the same way in both directions.
    rcases hv rfl with rfl | hasv
    · rcases hw rfl with rfl | hasw
      · have hself : family.order .absent .absent = .eq := Std.ReflCmp.compare_self
        rw [hself]
        cases direction <;> exact iff_of_false (not_or.2 ⟨nofun, fun h => h.1 rfl⟩) nofun
      · rw [hasw.isAbsent_eq_false]
        cases direction <;> exact iff_of_false (not_or.2 ⟨nofun, fun h => h.1 rfl⟩) nofun
    · rcases hw rfl with rfl | hasw
      · rw [hasv.isAbsent_eq_false]
        cases direction <;> exact iff_of_true (.inr ⟨hasv.ne_absent, rfl⟩) rfl
      · rw [hasv.isAbsent_eq_false, hasw.isAbsent_eq_false]
        exact precedes_iff_of_has rfl hasv hasw
  | isSet =>
    cases direction with
    | ascending =>
      change v = .absent ∧ w ≠ .absent ↔ Ord.compare w.isAbsent v.isAbsent = .lt
      rw [Value.compare_isAbsent_eq_lt_iff, and_comm]
    | descending =>
      change v ≠ .absent ∧ w = .absent ↔ (Ord.compare w.isAbsent v.isAbsent).swap = .lt
      rw [← Std.OrientedCmp.eq_swap, Value.compare_isAbsent_eq_lt_iff]
  | isNotSet =>
    cases direction with
    | ascending => exact Value.compare_isAbsent_eq_lt_iff.symm
    | descending =>
      change v = .absent ∧ w ≠ .absent ↔ (Ord.compare v.isAbsent w.isAbsent).swap = .lt
      rw [← Std.OrientedCmp.eq_swap, Value.compare_isAbsent_eq_lt_iff, and_comm]

end SortKey

end FilterQuery
