import FilterQuery.Value
import Mathlib.Algebra.Group.Nat.Defs

/-!
# Values by their texts

Numbers of a fixed width, moments and identifiers can be told by their texts. The fields of a moment
have fixed widths except for the year in front, so they come off the end of the text one by one.

## Key results

- `Timestamp.print_injective`: different moments have different texts
- `Uuid.readDigits?_digits`: the digits of an identifier are read back as the identifier
- `Uuid.print_injective`: different identifiers have different texts
-/

namespace FilterQuery

/-! ## Digits. -/

theorem isDigit_of_mem_printNat {n : Nat} {c : Char} (h : c ∈ printNat n) : c.isDigit = true :=
  Nat.isDigit_of_mem_toDigits (by decide) (by decide) h

theorem printNat_injective {m n : Nat} (h : printNat m = printNat n) : m = n := by
  have hread := congrArg (fun digits => Nat.ofDigitChars 10 digits 0) h
  simpa only [printNat, Nat.ofDigitChars_ten_toDigits] using hread

theorem minus_not_mem_printNat (n : Nat) : '-' ∉ printNat n := by
  intro h
  have hdigit := isDigit_of_mem_printNat h
  simp at hdigit

theorem printInt_injective {m n : Int} (h : printInt m = printInt n) : m = n := by
  unfold printInt at h
  -- A minus sign is no digit, so both numbers have one or none has.
  split at h <;> split at h
  · have habs := printNat_injective (List.cons.inj h).2
    omega
  · exact absurd (h ▸ List.mem_cons_self) (minus_not_mem_printNat _)
  · exact absurd (h ▸ List.mem_cons_self) (minus_not_mem_printNat _)
  · have habs := printNat_injective h
    omega

namespace Timestamp

theorem isDigit_of_mem_printPadded {width n : Nat} {c : Char} (h : c ∈ printPadded width n) :
    c.isDigit = true := by
  rcases List.mem_append.1 h with h | h
  · rw [List.eq_of_mem_replicate h]
    rfl
  · exact isDigit_of_mem_printNat h

/-- Zeros in front do not change the value of digits. -/
theorem printPadded_injective {width m n : Nat} (h : printPadded width m = printPadded width n) :
    m = n := by
  have hread := congrArg (fun digits => Nat.ofDigitChars 10 digits 0) h
  simpa only [printPadded, printNat, Nat.ofDigitChars_append, Nat.ofDigitChars_replicate_zero,
    Nat.mul_zero, Nat.ofDigitChars_ten_toDigits] using hread

theorem length_printPadded {width n : Nat} (hwidth : 0 < width) (h : n < 10 ^ width) :
    (printPadded width n).length = width := by
  have hle : (printNat n).length ≤ width :=
    (Nat.length_toDigits_le_iff (by decide) hwidth).2 h
  rw [printPadded, List.length_append, List.length_replicate]
  omega

/-- At the end of two texts, a separator and a number of a fixed width can be told. -/
theorem append_printPadded_inj {width m n : Nat} {c : Char} {front front' : List Char}
    (hwidth : 0 < width) (hm : m < 10 ^ width) (hn : n < 10 ^ width)
    (h : front ++ c :: printPadded width m = front' ++ c :: printPadded width n) :
    front = front' ∧ m = n := by
  have hlength : (c :: printPadded width m).length = (c :: printPadded width n).length := by
    rw [List.length_cons, List.length_cons, length_printPadded hwidth hm,
      length_printPadded hwidth hn]
  obtain ⟨hfront, hback⟩ := List.append_inj' h hlength
  exact ⟨hfront, printPadded_injective (List.cons.inj hback).2⟩

theorem printYear_injective {x y : Int} (h : printYear x = printYear y) : x = y := by
  -- A sign is no digit, so it tells years of four digits from the others.
  have hsign : ∀ {c : Char} {n k : Nat}, c.isDigit = false →
      c :: printPadded 4 n ≠ printPadded 4 k := by
    intro c n k hc heq
    have hdigit := isDigit_of_mem_printPadded (heq ▸ List.mem_cons_self)
    rw [hc] at hdigit
    cases hdigit
  have hnot : ∀ z : Int, (if z < 0 then '-' else '+').isDigit = false := by
    intro z
    split <;> rfl
  unfold printYear at h
  by_cases hx : 0 ≤ x ∧ x ≤ 9999 <;> by_cases hy : 0 ≤ y ∧ y ≤ 9999
  · rw [if_pos hx, if_pos hy] at h
    have hnat := printPadded_injective h
    omega
  · rw [if_pos hx, if_neg hy] at h
    exact absurd h.symm (hsign (hnot y))
  · rw [if_neg hx, if_pos hy] at h
    exact absurd h (hsign (hnot x))
  · rw [if_neg hx, if_neg hy] at h
    obtain ⟨hhead, htail⟩ := List.cons.inj h
    have habs := printPadded_injective htail
    -- The signs are the same as well.
    split at hhead <;> split at hhead
    · omega
    · cases hhead
    · cases hhead
    · omega

theorem eq_of_toInt_millis {t u : Timestamp} (h : t.millis.toInt = u.millis.toInt) : t = u := by
  obtain ⟨m⟩ := t
  obtain ⟨n⟩ := u
  rw [mk.injEq]
  exact Int64.toInt_inj.1 h

theorem eq_of_date {t u : Timestamp} (hdate : t.date = u.date)
    (hmillis : t.millisOfDay = u.millisOfDay) : t = u := by
  have hday : t.dayNumber = u.dayNumber := by
    rw [← Date.dayNumber_ofDayNumber t.dayNumber, ← Date.dayNumber_ofDayNumber u.dayNumber]
    exact congrArg Date.dayNumber hdate
  apply eq_of_toInt_millis
  simp only [dayNumber, millisOfDay] at hday hmillis
  omega

/-- A text with a date ends with the letter of the zone, which no number of milliseconds has. -/
theorem print_ne_printInt {t : Timestamp} (h : t.hasDate = true) (n : Int) :
    t.print ≠ printInt n := by
  intro heq
  have hzone : 'Z' ∈ t.print := by
    rw [print, if_pos h]
    exact List.mem_append_right _ (List.mem_singleton.2 rfl)
  rw [heq, printInt] at hzone
  have hdigit : 'Z'.isDigit = true := by
    split at hzone
    · rcases List.mem_cons.1 hzone with hminus | hzone
      · cases hminus
      · exact isDigit_of_mem_printNat hzone
    · exact isDigit_of_mem_printNat hzone
  cases hdigit

/-- Different moments have different texts. -/
theorem print_injective {t u : Timestamp} (h : t.print = u.print) : t = u := by
  cases ht : t.hasDate with
  | false =>
    cases hu : u.hasDate with
    | false =>
      simp only [print, ht, hu, Bool.false_eq_true, if_false] at h
      exact eq_of_toInt_millis (printInt_injective h)
    | true =>
      rw [print, if_neg (by simp [ht])] at h
      exact absurd h.symm (print_ne_printInt hu _)
  | true =>
    cases hu : u.hasDate with
    | false =>
      rw [print.eq_def u, if_neg (by simp [hu])] at h
      exact absurd h (print_ne_printInt ht _)
    | true =>
      obtain ⟨htmonth, htday⟩ := Date.ofDayNumber_lt t.dayNumber
      obtain ⟨humonth, huday⟩ := Date.ofDayNumber_lt u.dayNumber
      have htmillis : t.millisOfDay < 86400000 := by
        unfold millisOfDay
        omega
      have humillis : u.millisOfDay < 86400000 := by
        unfold millisOfDay
        omega
      simp only [print, ht, hu, if_true] at h
      -- From the zone at the end to the year in front.
      have h := List.append_cancel_right h
      obtain ⟨h, hmilli⟩ := append_printPadded_inj (by decide) (by omega) (by omega) h
      obtain ⟨h, hsecond⟩ := append_printPadded_inj (by decide) (by omega) (by omega) h
      obtain ⟨h, hminute⟩ := append_printPadded_inj (by decide) (by omega) (by omega) h
      obtain ⟨h, hhour⟩ := append_printPadded_inj (by decide) (by omega) (by omega) h
      obtain ⟨h, hday⟩ := append_printPadded_inj (by decide) htday huday h
      obtain ⟨h, hmonth⟩ := append_printPadded_inj (by decide) htmonth humonth h
      have hyear := printYear_injective h
      have hdate : t.date = u.date := by
        rw [Date.mk.injEq]
        exact ⟨hyear, hmonth, hday⟩
      exact eq_of_date hdate (by omega)

end Timestamp

namespace Uuid

theorem hexValue?_digitChar {n : Nat} (h : n < 16) : Text.hexValue? n.digitChar = some n := by
  have hall : ∀ i : Fin 16, Text.hexValue? (Nat.digitChar i) = some i.val := by decide
  exact hall ⟨n, h⟩

/-- The lowest hexadecimal digits of a number, put together again. -/
theorem foldl_digits (count n : Nat) :
    ((List.range count).map fun i => n / 16 ^ (count - 1 - i) % 16).foldl
      (fun value digit => 16 * value + digit) 0 = n % 16 ^ count := by
  -- The digits in front of the last one are those of a sixteenth of the number.
  induction count generalizing n with
  | zero => simp [Nat.mod_one]
  | succ count ih =>
    have hfront : (List.range count).map (fun i => n / 16 ^ (count + 1 - 1 - i) % 16) =
        (List.range count).map fun i => n / 16 / 16 ^ (count - 1 - i) % 16 := by
      apply List.map_congr_left
      intro i hi
      have hlt : i < count := List.mem_range.1 hi
      rw [Nat.div_div_eq_div_mul, ← Nat.pow_succ',
        show (count - 1 - i).succ = count + 1 - 1 - i by omega]
    rw [List.range_succ, List.map_append, hfront, List.foldl_append, ih]
    simp only [List.map_cons, List.map_nil, List.foldl_cons, List.foldl_nil]
    rw [show count + 1 - 1 - count = 0 by omega, Nat.pow_zero, Nat.div_one, Nat.pow_succ,
      Nat.mul_comm (16 ^ count) 16, Nat.mod_mul]
    omega

/-- The digits of an identifier are read back as the identifier. -/
theorem readDigits?_digits (u : Uuid) : readDigits? u.digits = some u := by
  have hlength : u.digits.length = 32 := by rw [digits, List.length_map, List.length_range]
  have hvalues : ∀ places : List Nat,
      (places.map fun i => Nat.digitChar (u.bits.toNat / Nat.pow 16 (31 - i) % 16)).mapM
        Text.hexValue? = some (places.map fun i => u.bits.toNat / 16 ^ (31 - i) % 16) := by
    intro places
    induction places with
    | nil => rfl
    | cons i places ih =>
      have hdigit := hexValue?_digitChar (Nat.mod_lt (u.bits.toNat / 16 ^ (31 - i)) (by decide))
      rw [List.map_cons, List.mapM_cons, ih, Nat.pow_eq, hdigit]
      rfl
  have hvalue : u.bits.toNat % 16 ^ 32 = u.bits.toNat := Nat.mod_eq_of_lt u.bits.isLt
  rw [readDigits?, if_pos hlength, digits, hvalues, Option.map_some, foldl_digits 32, hvalue,
    BitVec.ofNat_toNat, BitVec.setWidth_eq]

theorem minus_not_mem_digits (u : Uuid) : '-' ∉ u.digits := by
  intro h
  obtain ⟨i, -, hdigit⟩ := List.mem_map.1 h
  have hvalue := hexValue?_digitChar (Nat.mod_lt (u.bits.toNat / Nat.pow 16 (31 - i))
    (show 16 > 0 by decide))
  rw [hdigit] at hvalue
  cases hvalue

/-- The groups follow one another in the digits. -/
theorem append_groups (u : Uuid) :
    u.digits.take 8 ++ ((u.digits.drop 8).take 4 ++ ((u.digits.drop 12).take 4 ++
      ((u.digits.drop 16).take 4 ++ u.digits.drop 20))) = u.digits := by
  have hgroup : ∀ n m, (u.digits.drop n).take m ++ u.digits.drop (n + m) = u.digits.drop n := by
    intro n m
    rw [← List.drop_drop, List.take_append_drop]
  rw [hgroup 16 4, hgroup 12 4, hgroup 8 4, List.take_append_drop]

/-- Without the hyphens, the text of an identifier consists of its digits. -/
theorem filter_print (u : Uuid) : u.print.filter (· != '-') = u.digits := by
  have hkeep : ∀ cs : List Char, (∀ c ∈ cs, c ∈ u.digits) → cs.filter (· != '-') = cs := by
    intro cs hcs
    apply List.filter_eq_self.2
    intro c hc
    exact bne_iff_ne.2 fun heq => minus_not_mem_digits u (heq ▸ hcs c hc)
  have hminus : ∀ cs : List Char, ('-' :: cs).filter (· != '-') = cs.filter (· != '-') :=
    fun cs => List.filter_cons_of_neg (by decide)
  have hdrop : ∀ n, ∀ c ∈ u.digits.drop n, c ∈ u.digits := fun _ _ hc => List.mem_of_mem_drop hc
  have htake : ∀ n m, ∀ c ∈ (u.digits.drop n).take m, c ∈ u.digits :=
    fun n _ c hc => hdrop n c (List.mem_of_mem_take hc)
  rw [print]
  simp only [List.filter_append, hminus]
  rw [hkeep _ (fun _ hc => List.mem_of_mem_take hc), hkeep _ (htake 8 4), hkeep _ (htake 12 4),
    hkeep _ (htake 16 4), hkeep _ (hdrop 20)]
  simp only [List.append_assoc]
  exact append_groups u

/-- Different identifiers have different texts. -/
theorem print_injective {u v : Uuid} (h : u.print = v.print) : u = v := by
  have hdigits : u.digits = v.digits := by rw [← filter_print, ← filter_print, h]
  have hread := congrArg readDigits? hdigits
  rw [readDigits?_digits, readDigits?_digits] at hread
  exact Option.some.inj hread

end Uuid

end FilterQuery
