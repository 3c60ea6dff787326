/-! # Dates

Dates of the proleptic Gregorian calendar, with a year zero and negative years before it.  A date is
counted as the number of days since 1 January 1970.

## Key results

* `ofDayNumber_dayNumber`: a valid date is recovered from its day number
* `dayNumber_ofDayNumber`: a day number is recovered from its date -/

namespace FilterQuery

/-- A year, a month and a day of the month. -/
structure Date where
  year : Int
  month : Nat
  day : Nat
deriving DecidableEq, Repr, Inhabited

/-- Whether the year has a 29 February. -/
def isLeapYear (year : Int) : Bool := year % 4 == 0 && (year % 100 != 0 || year % 400 == 0)

/-- Lengths of the months of a year, January first. -/
def monthLengths (year : Int) : List Nat :=
  [31, if isLeapYear year then 29 else 28, 31, 30, 31, 30, 31, 31, 30, 31, 30, 31]

/-- The days of several months together. -/
def totalLength : List Nat → Nat
  | [] => 0
  | length :: lengths => length + totalLength lengths

/-- The first and the last year of the dates that timestamps are read and written with. -/
def yearRange : Int × Int := (-262143, 262142)

namespace Date

/-- Whether the date exists in the calendar and its year is in range. -/
def isValid (d : Date) : Bool :=
  yearRange.1 ≤ d.year && d.year ≤ yearRange.2 && 1 ≤ d.month && 1 ≤ d.day &&
    match (monthLengths d.year)[d.month - 1]? with
    | some length => d.day ≤ length
    | none => false

/-- Days between 1 January of year zero and 1 January 1970. -/
def epoch : Int := 719528

/-- Days between 1 January of year zero and 1 January of the given year. -/
def daysBeforeYear (year : Int) : Int :=
  365 * year + (year + 3) / 4 - (year + 99) / 100 + (year + 399) / 400

/-- Days since 1 January 1970. -/
def dayNumber (d : Date) : Int :=
  daysBeforeYear d.year + totalLength ((monthLengths d.year).take (d.month - 1)) +
    (d.day - 1 : Int) - epoch

/-- The year that the day lies in; days are counted from 1 January of year zero. -/
def yearOfDay (day : Int) : Int :=
  -- 400 years have 146097 days, so the guess is off by one year at most.
  let guess := day * 400 / 146097
  if day < daysBeforeYear guess then guess - 1
  else if daysBeforeYear (guess + 1) ≤ day then guess + 1
  else guess

/-- The month and the day of the month that a day of the year lies in; `month` is the number of the
first month of the list. -/
def monthOfDay (month : Nat) : List Nat → Nat → Nat × Nat
  | [], day => (month, day + 1)
  | length :: lengths, day =>
    if day < length then (month, day + 1) else monthOfDay (month + 1) lengths (day - length)

/-- The date of a day number. -/
def ofDayNumber (n : Int) : Date :=
  let day := n + epoch
  let year := yearOfDay day
  let (month, dayOfMonth) := monthOfDay 1 (monthLengths year) (day - daysBeforeYear year).toNat
  ⟨year, month, dayOfMonth⟩

/-! ## Days and dates correspond. -/

theorem daysBeforeYear_yearOfDay_le (day : Int) : daysBeforeYear (yearOfDay day) ≤ day := by
  unfold yearOfDay daysBeforeYear; dsimp only; split
  · omega
  · split <;> omega

theorem lt_daysBeforeYear_yearOfDay (day : Int) : day < daysBeforeYear (yearOfDay day + 1) := by
  unfold yearOfDay; dsimp only; split
  · rwa [Int.sub_add_cancel]
  · split
    · unfold daysBeforeYear; omega
    · omega

theorem daysBeforeYear_mono {x y : Int} (h : x ≤ y) : daysBeforeYear x ≤ daysBeforeYear y := by
  unfold daysBeforeYear; omega

/-- The year of a day is the only one whose days include it. -/
theorem yearOfDay_unique {day year : Int} (hle : daysBeforeYear year ≤ day)
    (hlt : day < daysBeforeYear (year + 1)) : yearOfDay day = year := by
  have h1 := daysBeforeYear_yearOfDay_le day
  have h2 := lt_daysBeforeYear_yearOfDay day
  -- An earlier year would end, and a later one begin, on the wrong side of the day.
  rcases Int.lt_trichotomy (yearOfDay day) year with h | h | h
  · have := @daysBeforeYear_mono (yearOfDay day + 1) year (by omega); omega
  · exact h
  · have := @daysBeforeYear_mono (year + 1) (yearOfDay day) (by omega); omega

theorem totalLength_monthLengths (year : Int) :
    (totalLength (monthLengths year) : Int) = daysBeforeYear (year + 1) - daysBeforeYear year := by
  -- Whether the year is a leap year hangs on its remainders by 4, 100 and 400 alone.
  unfold monthLengths daysBeforeYear isLeapYear
  by_cases h4 : year % 4 = 0 <;> by_cases h100 : year % 100 = 0 <;>
    by_cases h400 : year % 400 = 0 <;> simp [totalLength, h4, h100, h400] <;> omega

theorem monthOfDay_take (first : Nat) (lengths : List Nat) (m day length : Nat)
    (hm : lengths[m]? = some length) (hday : day < length) :
    monthOfDay first lengths (totalLength (lengths.take m) + day) = (first + m, day + 1) := by
  induction lengths generalizing first m with
  | nil => simp at hm
  | cons l ls ih =>
    cases m with
    | zero =>
      simp only [List.getElem?_cons_zero, Option.some.injEq] at hm
      simp [monthOfDay, totalLength, hm, hday]
    | succ m =>
      simp only [List.getElem?_cons_succ] at hm
      have hsum : totalLength ((l :: ls).take (m + 1)) + day =
          l + (totalLength (ls.take m) + day) := by
        rw [List.take_succ_cons, totalLength, Nat.add_assoc]
      rw [hsum, monthOfDay, if_neg (by omega), Nat.add_sub_cancel_left, ih (first + 1) m hm]
      simp only [Prod.mk.injEq, and_true]; omega

theorem totalLength_take_add_le (lengths : List Nat) (m length : Nat)
    (hm : lengths[m]? = some length) :
    totalLength (lengths.take m) + length ≤ totalLength lengths := by
  induction lengths generalizing m with
  | nil => simp at hm
  | cons l ls ih =>
    cases m with
    | zero => simp at hm; simp [totalLength, hm]
    | succ m =>
      simp only [List.getElem?_cons_succ] at hm
      have := ih m hm
      simp only [List.take_succ_cons, totalLength]; omega

/-- A valid date is recovered from its day number. -/
theorem ofDayNumber_dayNumber {d : Date} (h : d.isValid = true) : ofDayNumber d.dayNumber = d := by
  obtain ⟨year, month, day⟩ := d
  simp only [isValid, Bool.and_eq_true, decide_eq_true_eq] at h
  obtain ⟨⟨⟨_, hmonth⟩, hday⟩, hlength⟩ := h
  split at hlength
  · rename_i length hm
    -- The month exists and has the day.
    have hlen : day ≤ length := by simpa using hlength
    have hsum := totalLength_monthLengths year
    have hle := totalLength_take_add_le _ _ _ hm
    -- The day number falls between the beginnings of the year and of the next one.
    have hyear : yearOfDay (dayNumber ⟨year, month, day⟩ + epoch) = year := by
      apply yearOfDay_unique <;> simp only [dayNumber] <;> omega
    -- What is left are the months in front and the day of the month.
    have hrest : (dayNumber ⟨year, month, day⟩ + epoch - daysBeforeYear year).toNat =
        totalLength ((monthLengths year).take (month - 1)) + (day - 1) := by
      simp only [dayNumber]; omega
    simp only [ofDayNumber, hyear, hrest]
    rw [monthOfDay_take 1 _ _ _ _ hm (by omega)]
    simp only [Date.mk.injEq, true_and]
    omega
  · simp at hlength

/-- A day of the year lies in one of the months, behind the months in front of it. -/
theorem exists_month_of_day (first : Nat) {lengths : List Nat} {day : Nat}
    (h : day < totalLength lengths) :
    ∃ m length rest, lengths[m]? = some length ∧ rest < length ∧
      day = totalLength (lengths.take m) + rest ∧
      monthOfDay first lengths day = (first + m, rest + 1) := by
  have hmonth : ∃ m length rest, lengths[m]? = some length ∧ rest < length ∧
      day = totalLength (lengths.take m) + rest := by
    induction lengths generalizing day with
    | nil => simp [totalLength] at h
    | cons l ls ih =>
      by_cases hday : day < l
      · exact ⟨0, l, day, by simp, hday, by simp [totalLength]⟩
      · rw [totalLength] at h
        obtain ⟨m, length, rest, hm, hrest, heq⟩ := @ih (day - l) (by omega)
        refine ⟨m + 1, length, rest, by simpa using hm, hrest, ?_⟩
        rw [List.take_succ_cons, totalLength]
        omega
  obtain ⟨m, length, rest, hm, hrest, rfl⟩ := hmonth
  exact ⟨m, length, rest, hm, hrest, rfl, monthOfDay_take first lengths m rest length hm hrest⟩

/-- The date of a day number lies in one of the twelve months, and the day number is recovered from
it. -/
theorem ofDayNumber_spec (n : Int) :
    ∃ m length, (monthLengths (ofDayNumber n).year)[m]? = some length ∧
      (ofDayNumber n).month = m + 1 ∧ (ofDayNumber n).day ≤ length ∧
      (ofDayNumber n).dayNumber = n := by
  -- The day falls into its year, so the months of the year have it.
  have hle := daysBeforeYear_yearOfDay_le (n + epoch)
  have hlt := lt_daysBeforeYear_yearOfDay (n + epoch)
  have hsum := totalLength_monthLengths (yearOfDay (n + epoch))
  have hfits : (n + epoch - daysBeforeYear (yearOfDay (n + epoch))).toNat <
      totalLength (monthLengths (yearOfDay (n + epoch))) := by omega
  obtain ⟨m, length, rest, hm, hrest, hday, hmonth⟩ := exists_month_of_day 1 hfits
  have hdate : ofDayNumber n = ⟨yearOfDay (n + epoch), 1 + m, rest + 1⟩ := by
    simp only [ofDayNumber, hmonth]
  rw [hdate]
  refine ⟨m, length, hm, Nat.add_comm 1 m, hrest, ?_⟩
  simp only [dayNumber, Nat.add_sub_cancel_left]
  omega

/-- A day number is recovered from its date. -/
theorem dayNumber_ofDayNumber (n : Int) : (ofDayNumber n).dayNumber = n := by
  obtain ⟨m, length, -, -, -, h⟩ := ofDayNumber_spec n
  exact h

/-- Months and days are written with two digits. -/
theorem ofDayNumber_lt (n : Int) : (ofDayNumber n).month < 100 ∧ (ofDayNumber n).day < 100 := by
  obtain ⟨m, length, hm, hmonth, hday, -⟩ := ofDayNumber_spec n
  obtain ⟨hlength, rfl⟩ := List.getElem?_eq_some_iff.1 hm
  have hle : ∀ l ∈ monthLengths (ofDayNumber n).year, l ≤ 31 := by
    unfold monthLengths
    cases isLeapYear (ofDayNumber n).year <;> simp
  have hday' := hle _ (List.getElem_mem hlength)
  rw [show (monthLengths (ofDayNumber n).year).length = 12 from rfl] at hlength
  omega

end Date

end FilterQuery
