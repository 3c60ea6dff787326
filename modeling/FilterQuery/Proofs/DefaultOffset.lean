import FilterQuery.Proofs.PrintedLiterals

/-!
# The default offset

A timestamp is a date and a time with a zone, or else a local time, which the default offset takes to
universal time. The offset moves a local time by exactly as many seconds as it has, over the ends of
days, months and years and in leap seconds as well, and plays no part where there is a zone.

## Key results

- `Calendar.zoned_isSome_iff`: the texts with a zone are those of a grammar
- `Timestamp.toInt_millis_of_ofLocal?`: a moment is its local time without the offset
- `Timestamp.read?_shifts`: two offsets read a text as moments that are their distance apart, unless
  it has a zone
-/

namespace FilterQuery

/-! ## Digits. -/

theorem readDigits_eq_some_iff {cs : List Char} {n : Nat} :
    readDigits cs = some n ↔ IsDigits cs ∧ digitsValue cs = n := by
  constructor
  · intro h
    have hdigits : IsDigits cs := by
      unfold readDigits at h
      split at h
      · rename_i hall
        exact ⟨hall.1, List.all_eq_true.1 hall.2⟩
      · cases h
    rw [readDigits_of_isDigits hdigits] at h
    exact ⟨hdigits, Option.some.inj h⟩
  · rintro ⟨hdigits, rfl⟩
    exact readDigits_of_isDigits hdigits

/-- Digits stand for less than the power of ten of their number. -/
theorem digitsValue_lt {cs : List Char} (h : ∀ c ∈ cs, c.isDigit = true) :
    digitsValue cs < 10 ^ cs.length := by
  induction cs with
  | nil => decide
  | cons c rest ih =>
    have hrest := ih fun d hd => h d (List.mem_cons_of_mem c hd)
    have hc : c.toNat - '0'.toNat ≤ 9 := by
      have hcode : 48 ≤ c.toNat ∧ c.toNat ≤ 57 := by
        simpa [Char.isDigit, UInt32.le_iff_toNat_le] using h c List.mem_cons_self
      have hzero : '0'.toNat = 48 := rfl
      omega
    have hmul := Nat.mul_le_mul_right (10 ^ rest.length) hc
    rw [digitsValue, List.length_cons, Nat.pow_succ]
    omega

/-! ## Local times. -/

namespace Date

theorem year_ofDayNumber (n : Int) : (ofDayNumber n).year = yearOfDay (n + epoch) := rfl

/-- The days of the years that timestamps are read with, by far. -/
theorem dayNumber_range {n : Int} (hlow : yearRange.1 ≤ (ofDayNumber n).year)
    (hhigh : (ofDayNumber n).year ≤ yearRange.2) : -100000000 < n ∧ n < 100000000 := by
  rw [year_ofDayNumber] at hlow hhigh
  have hfirst := daysBeforeYear_mono hlow
  have hlast := daysBeforeYear_mono (Int.add_le_add_right hhigh 1)
  have hle := daysBeforeYear_yearOfDay_le (n + epoch)
  have hlt := lt_daysBeforeYear_yearOfDay (n + epoch)
  have hbound : -95800000 < daysBeforeYear yearRange.1 ∧
      daysBeforeYear (yearRange.2 + 1) < 95800000 := by decide
  have hepoch : epoch = 719528 := rfl
  omega

/-- A day lies in one of the years from the first to the last if it lies between the beginning of the
first and the end of the last. -/
theorem year_ofDayNumber_range {n first last : Int} (hlow : daysBeforeYear first ≤ n + epoch)
    (hhigh : n + epoch < daysBeforeYear (last + 1)) :
    first ≤ (ofDayNumber n).year ∧ (ofDayNumber n).year ≤ last := by
  rw [year_ofDayNumber]
  have hle := daysBeforeYear_yearOfDay_le (n + epoch)
  have hlt := lt_daysBeforeYear_yearOfDay (n + epoch)
  constructor
  · by_contra hearlier
    have hmono := @daysBeforeYear_mono (yearOfDay (n + epoch) + 1) first (by omega)
    omega
  · by_contra hlater
    have hmono := @daysBeforeYear_mono (last + 1) (yearOfDay (n + epoch)) (by omega)
    omega

end Date

namespace TimeOfDay

/-- A time of day lies in its day, and a leap second is the only one that is longer. -/
theorem bounds_of_ofFields? {hour minute second millis : Nat} {t : TimeOfDay}
    (h : ofFields? hour minute second millis = some t) :
    t.seconds < 86400 ∧ t.millis ≤ 1000 + millis := by
  unfold ofFields? at h
  split at h
  · split at h
    · cases h
      simp only [seconds]
      omega
    · split at h
      · cases h
        simp only [seconds]
        omega
      · cases h
  · cases h

end TimeOfDay

namespace Timestamp

/-- A moment is its local time without the offset; the range of years leaves room for the
milliseconds. -/
theorem toInt_millis_of_ofLocal? {date : Date} {time : TimeOfDay} {offset : Int} {t : Timestamp}
    (h : ofLocal? date time offset = some t) (hmillis : time.millis < 2000) :
    t.millis.toInt = (date.dayNumber * 86400 + time.seconds - offset) * 1000 + time.millis := by
  simp only [ofLocal?] at h
  split at h
  · rename_i hrange
    obtain ⟨-, hlow, hhigh⟩ := hrange
    have hday := Date.dayNumber_range hlow hhigh
    cases h
    rw [Int64.toInt_ofInt_of_le]
    · omega
    · omega
  · cases h

theorem isValid_of_ofLocal? {date : Date} {time : TimeOfDay} {offset : Int} {t : Timestamp}
    (h : ofLocal? date time offset = some t) : date.isValid = true := by
  simp only [ofLocal?] at h
  split at h
  · rename_i hrange
    exact hrange.1
  · cases h

/-- A day in the years of four digits stays in range at every offset of less than a day. -/
theorem ofLocal?_isSome {date : Date} {time : TimeOfDay} {offset : Int}
    (hvalid : date.isValid = true) (hyear : 0 ≤ date.year ∧ date.year ≤ 9999)
    (hseconds : time.seconds < 86400) (hoffset : -86400 < offset ∧ offset < 86400) :
    (ofLocal? date time offset).isSome = true := by
  have hday : Date.yearOfDay (date.dayNumber + Date.epoch) = date.year := by
    rw [← Date.year_ofDayNumber, Date.ofDayNumber_dayNumber hvalid]
  have hle := Date.daysBeforeYear_yearOfDay_le (date.dayNumber + Date.epoch)
  have hlt := Date.lt_daysBeforeYear_yearOfDay (date.dayNumber + Date.epoch)
  rw [hday] at hle hlt
  have hfirst := Date.daysBeforeYear_mono hyear.1
  have hlast := Date.daysBeforeYear_mono (Int.add_le_add_right hyear.2 1)
  have hbound : Date.daysBeforeYear yearRange.1 < Date.daysBeforeYear 0 - 1 ∧
      Date.daysBeforeYear (9999 + 1) + 1 < Date.daysBeforeYear (yearRange.2 + 1) := by decide
  -- The offset leads to the day before or behind at most, so the year is far inside the range.
  obtain ⟨hlow, hhigh⟩ := @Date.year_ofDayNumber_range
    ((date.dayNumber * 86400 + time.seconds - offset) / 86400) yearRange.1 yearRange.2 (by omega)
    (by omega)
  simp only [ofLocal?]
  rw [if_pos ⟨hvalid, hlow, hhigh⟩]
  rfl

end Timestamp

/-! ## Texts with a zone. -/

namespace Calendar

/-- Whether a text is so many digits that stand for the number. -/
structure IsField (width : Nat) (cs : List Char) (n : Nat) : Prop where
  digits : IsDigits cs
  length : cs.length = width
  value : digitsValue cs = n

/-- Whether a text is nothing, or a point with digits behind it, and stands for so many whole
milliseconds; a short fraction is filled up, and digits behind the third do not count. -/
inductive IsFraction : List Char → Nat → Prop
  | none : IsFraction [] 0
  | point {digits : List Char} (h : IsDigits digits) :
    IsFraction ('.' :: digits) (digitsValue ((digits ++ ['0', '0']).take 3))

/-- Whether a text is a zone in which local time is so many seconds ahead of universal time. -/
inductive IsZone : List Char → Int → Prop
  | universal {letter : Char} (h : letter = 'Z' ∨ letter = 'z') : IsZone [letter] 0
  | ahead {hours minutes : List Char} {h m : Nat} (hhours : IsField 2 hours h)
      (hminutes : IsField 2 minutes m) (hle : h ≤ 23 ∧ m ≤ 59) :
      IsZone ('+' :: (hours ++ ':' :: minutes)) (h * 3600 + m * 60 : Nat)
  | behind {sign : Char} {hours minutes : List Char} {h m : Nat}
      (hsign : sign = '-' ∨ sign = '\u2212') (hhours : IsField 2 hours h)
      (hminutes : IsField 2 minutes m) (hle : h ≤ 23 ∧ m ≤ 59) :
      IsZone (sign :: (hours ++ ':' :: minutes)) (-(h * 3600 + m * 60 : Nat))

theorem char_eq_some_iff {c : Char} {cs rest : List Char} :
    char c cs = some rest ↔ cs = c :: rest := by
  cases cs with
  | nil => simp [char]
  | cons d cs =>
    rw [char, List.cons.injEq]
    by_cases h : c = d
    · simp [h]
    · simp [h, Ne.symm h]

theorem fixed_eq_some_iff {width n : Nat} {cs rest : List Char} :
    fixed width cs = some (n, rest) ↔ ∃ digits, cs = digits ++ rest ∧ IsField width digits n := by
  constructor
  · intro h
    unfold fixed at h
    split at h
    · rename_i hlength
      obtain ⟨m, hread, heq⟩ := Option.map_eq_some_iff.1 h
      obtain ⟨rfl, rfl⟩ := Prod.mk.inj heq
      obtain ⟨hdigits, hvalue⟩ := readDigits_eq_some_iff.1 hread
      exact ⟨cs.take width, (List.take_append_drop width cs).symm, hdigits, hlength, hvalue⟩
    · cases h
  · rintro ⟨digits, rfl, h⟩
    rw [fixed, List.take_left' h.length, List.drop_left' h.length, if_pos h.length,
      readDigits_eq_some_iff.2 ⟨h.digits, h.value⟩]
    rfl

theorem exists_of_fraction {cs rest : List Char} {millis : Nat}
    (h : fraction cs = some (millis, rest)) :
    ∃ front, cs = front ++ rest ∧ IsFraction front millis := by
  unfold fraction at h
  split at h
  · rename_i behind
    obtain ⟨n, hread, h⟩ := Option.bind_eq_some_iff.1 h
    split at h
    · cases h
    · rename_i hne
      obtain ⟨rfl, rfl⟩ := Prod.mk.inj (Option.some.inj h)
      have hdigits : IsDigits (behind.takeWhile Char.isDigit) :=
        ⟨by simpa using hne, fun c hc => List.mem_takeWhile_imp hc⟩
      have hsplit := List.prefix_iff_eq_append.1 (List.takeWhile_prefix (l := behind) Char.isDigit)
      obtain ⟨-, hvalue⟩ := readDigits_eq_some_iff.1 hread
      refine ⟨'.' :: behind.takeWhile Char.isDigit, ?_, hvalue ▸ .point hdigits⟩
      rw [List.cons_append, hsplit]
  · obtain ⟨rfl, rfl⟩ := Prod.mk.inj (Option.some.inj h)
    exact ⟨[], rfl, .none⟩

/-- A short fraction is filled up with zeros. -/
theorem isDigits_filled {digits : List Char} (h : ∀ c ∈ digits, c.isDigit = true)
    (hne : digits ≠ []) : IsDigits ((digits ++ ['0', '0']).take 3) := by
  refine ⟨by simp [hne], fun c hc => ?_⟩
  rcases List.mem_append.1 (List.mem_of_mem_take hc) with hc | hc
  · exact h c hc
  · obtain rfl : c = '0' := by simpa using hc
    rfl

/-- A fraction is read in front of anything that does not go on from it. -/
theorem fraction_append {front rest : List Char} {millis : Nat} (h : IsFraction front millis)
    (hrest : ∀ c ∈ rest.head?, c ≠ '.' ∧ c.isDigit = false) :
    fraction (front ++ rest) = some (millis, rest) := by
  cases h with
  | none =>
    unfold fraction
    split
    · rename_i heq
      obtain rfl : rest = '.' :: _ := heq
      exact absurd rfl (hrest '.' rfl).1
    · rfl
  | @point digits h =>
    have hstop : rest.takeWhile Char.isDigit = [] := by
      cases rest with
      | nil => rfl
      | cons c rest => exact List.takeWhile_cons_of_neg (by simp [(hrest c rfl).2])
    have htake : (digits ++ rest).takeWhile Char.isDigit = digits := by
      rw [List.takeWhile_append_of_pos h.2, hstop, List.append_nil]
    rw [List.cons_append, fraction, htake, readDigits_of_isDigits (isDigits_filled h.2 h.1),
      Option.bind_some, if_neg (by simpa using h.1), List.drop_left' rfl]

/-- Reads the hours and minutes of a zone behind their sign. -/
def signedOffset (sign : Int) (cs : List Char) : Option (Int × List Char) := do
  let (hours, rest) ← fixed 2 cs
  let rest ← char ':' rest
  let (minutes, rest) ← fixed 2 rest
  if minutes ≤ 59 ∧ hours ≤ 23 then
    some (sign * (hours * 3600 + minutes * 60 : Nat), rest)
  else none

theorem zone_cons (c : Char) (rest : List Char) :
    zone (c :: rest) =
      if c == 'Z' || c == 'z' then some (0, rest)
      else if c == '+' then signedOffset 1 rest
      else if c == '-' || c == '\u2212' then signedOffset (-1) rest
      else none := rfl

theorem signedOffset_eq_some_iff {sign offset : Int} {cs rest : List Char} :
    signedOffset sign cs = some (offset, rest) ↔
      ∃ hours minutes h m, cs = hours ++ ':' :: (minutes ++ rest) ∧ IsField 2 hours h ∧
        IsField 2 minutes m ∧ (h ≤ 23 ∧ m ≤ 59) ∧ offset = sign * (h * 3600 + m * 60 : Nat) := by
  constructor
  · intro h
    obtain ⟨⟨n, behind⟩, hn, h⟩ := Option.bind_eq_some_iff.1 h
    obtain ⟨behind', hcolon, h⟩ := Option.bind_eq_some_iff.1 h
    obtain ⟨⟨m, behind''⟩, hm, h⟩ := Option.bind_eq_some_iff.1 h
    dsimp only at h
    split at h
    · rename_i hle
      obtain ⟨rfl, rfl⟩ := Prod.mk.inj (Option.some.inj h)
      obtain ⟨hours, rfl, hhours⟩ := fixed_eq_some_iff.1 hn
      obtain rfl := char_eq_some_iff.1 hcolon
      obtain ⟨minutes, rfl, hminutes⟩ := fixed_eq_some_iff.1 hm
      exact ⟨hours, minutes, n, m, rfl, hhours, hminutes, hle.symm, rfl⟩
    · cases h
  · rintro ⟨hours, minutes, h, m, rfl, hhours, hminutes, hle, rfl⟩
    rw [signedOffset, fixed_eq_some_iff.2 ⟨hours, rfl, hhours⟩]
    simp only [Option.bind_eq_bind, Option.bind_some]
    rw [char_eq_some_iff.2 rfl, Option.bind_some, fixed_eq_some_iff.2 ⟨minutes, rfl, hminutes⟩,
      Option.bind_some]
    exact if_pos hle.symm

theorem exists_of_zone {cs rest : List Char} {offset : Int} (h : zone cs = some (offset, rest)) :
    ∃ front, cs = front ++ rest ∧ IsZone front offset := by
  cases cs with
  | nil => cases h
  | cons c cs =>
    rw [zone_cons] at h
    split at h
    · rename_i hletter
      obtain ⟨rfl, rfl⟩ := Prod.mk.inj (Option.some.inj h)
      exact ⟨[c], rfl, .universal (by simpa using hletter)⟩
    · split at h
      · rename_i hsign
        obtain rfl : c = '+' := by simpa using hsign
        obtain ⟨hours, minutes, h, m, rfl, hhours, hminutes, hle, rfl⟩ :=
          signedOffset_eq_some_iff.1 h
        refine ⟨'+' :: (hours ++ ':' :: minutes), by simp, ?_⟩
        rw [Int.one_mul]
        exact .ahead hhours hminutes hle
      · split at h
        · rename_i hsign
          obtain ⟨hours, minutes, h, m, rfl, hhours, hminutes, hle, rfl⟩ :=
            signedOffset_eq_some_iff.1 h
          refine ⟨c :: (hours ++ ':' :: minutes), by simp, ?_⟩
          rw [Int.neg_one_mul]
          exact .behind (by simpa using hsign) hhours hminutes hle
        · cases h

theorem zone_append {front rest : List Char} {offset : Int} (h : IsZone front offset) :
    zone (front ++ rest) = some (offset, rest) := by
  cases h with
  | universal hletter =>
    rw [List.cons_append, zone_cons, if_pos (by simpa using hletter)]
    rfl
  | @ahead hours minutes h m hhours hminutes hle =>
    rw [List.cons_append, zone_cons, if_neg (by decide), if_pos (by decide)]
    exact signedOffset_eq_some_iff.2
      ⟨hours, minutes, h, m, by simp, hhours, hminutes, hle, (Int.one_mul _).symm⟩
  | @behind sign hours minutes h m hsign hhours hminutes hle =>
    have hletter : (sign == 'Z' || sign == 'z') = false ∧ (sign == '+') = false := by
      rcases hsign with rfl | rfl <;> decide
    rw [List.cons_append, zone_cons, if_neg (by simp [hletter.1]), if_neg (by simp [hletter.2]),
      if_pos (by simpa using hsign)]
    exact signedOffset_eq_some_iff.2
      ⟨hours, minutes, h, m, by simp, hhours, hminutes, hle, (Int.neg_one_mul _).symm⟩

/-- A zone does not go on from a fraction in front of it. -/
theorem IsZone.head?_ne {zone : List Char} {offset : Int} (h : IsZone zone offset) :
    ∀ c ∈ zone.head?, c ≠ '.' ∧ c.isDigit = false := by
  intro c hc
  cases h with
  | universal hletter =>
    cases hc
    rcases hletter with rfl | rfl <;> decide
  | ahead =>
    cases hc
    decide
  | behind hsign =>
    cases hc
    rcases hsign with rfl | rfl <;> decide

theorem IsZone.bounds {zone : List Char} {offset : Int} (h : IsZone zone offset) :
    -86400 < offset ∧ offset < 86400 := by
  cases h with
  | universal => decide
  | ahead => omega
  | behind => omega

/-- Whether a text says, every field at full width, that in a zone so many seconds ahead of universal
time it is the given time of the given day. -/
inductive IsZoned : List Char → Date → TimeOfDay → Int → Prop
  | intro {year month day hour minute second fraction zone : List Char} {separator : Char}
      {y m d h min s millis : Nat} {time : TimeOfDay} {offset : Int} (hyear : IsField 4 year y)
      (hmonth : IsField 2 month m) (hday : IsField 2 day d)
      (hseparator : separator = 'T' ∨ separator = 't' ∨ separator = ' ')
      (hhour : IsField 2 hour h) (hminute : IsField 2 minute min) (hsecond : IsField 2 second s)
      (hfraction : IsFraction fraction millis) (hzone : IsZone zone offset)
      (htime : TimeOfDay.ofFields? h min s millis = some time) :
      IsZoned (year ++ '-' :: (month ++ '-' :: (day ++ separator :: (hour ++ ':' :: (minute ++
        ':' :: (second ++ (fraction ++ zone))))))) ⟨y, m, d⟩ time offset

/-- The letter between the date and the time, or a blank. -/
theorem separator_eq_some_iff {cs rest : List Char} :
    (char 'T' cs).or ((char 't' cs).or (char ' ' cs)) = some rest ↔
      ∃ separator, cs = separator :: rest ∧
        (separator = 'T' ∨ separator = 't' ∨ separator = ' ') := by
  constructor
  · intro h
    rcases Option.or_eq_some_iff.1 h with h | ⟨-, h⟩
    · exact ⟨'T', char_eq_some_iff.1 h, .inl rfl⟩
    · rcases Option.or_eq_some_iff.1 h with h | ⟨-, h⟩
      · exact ⟨'t', char_eq_some_iff.1 h, .inr (.inl rfl)⟩
      · exact ⟨' ', char_eq_some_iff.1 h, .inr (.inr rfl)⟩
  · rintro ⟨separator, rfl, rfl | rfl | rfl⟩ <;> rfl

theorem exists_of_zoned {cs : List Char} {t : Timestamp} (hread : zoned cs = some t) :
    ∃ date time offset, IsZoned cs date time offset ∧
      Timestamp.ofLocal? date time offset = some t := by
  -- Every step takes its field off the front of what the step before it has left.
  obtain ⟨⟨y, cs₁⟩, hy, hread⟩ := Option.bind_eq_some_iff.1 hread
  obtain ⟨cs₂, hdash, hread⟩ := Option.bind_eq_some_iff.1 hread
  obtain ⟨⟨m, cs₃⟩, hm, hread⟩ := Option.bind_eq_some_iff.1 hread
  obtain ⟨cs₄, hdash', hread⟩ := Option.bind_eq_some_iff.1 hread
  obtain ⟨⟨d, cs₅⟩, hd, hread⟩ := Option.bind_eq_some_iff.1 hread
  obtain ⟨cs₆, hsep, hread⟩ := Option.bind_eq_some_iff.1 hread
  obtain ⟨⟨h, cs₇⟩, hh, hread⟩ := Option.bind_eq_some_iff.1 hread
  obtain ⟨cs₈, hcolon, hread⟩ := Option.bind_eq_some_iff.1 hread
  obtain ⟨⟨min, cs₉⟩, hmin, hread⟩ := Option.bind_eq_some_iff.1 hread
  obtain ⟨cs₁₀, hcolon', hread⟩ := Option.bind_eq_some_iff.1 hread
  obtain ⟨⟨s, cs₁₁⟩, hs, hread⟩ := Option.bind_eq_some_iff.1 hread
  obtain ⟨⟨millis, cs₁₂⟩, hms, hread⟩ := Option.bind_eq_some_iff.1 hread
  obtain ⟨⟨offset, cs₁₃⟩, hoff, hread⟩ := Option.bind_eq_some_iff.1 hread
  obtain ⟨time, htime, hlocal⟩ := Option.bind_eq_some_iff.1 hread
  split at hlocal
  · rename_i hend
    obtain rfl : cs₁₃ = [] := List.isEmpty_iff.1 hend
    obtain ⟨year, rfl, hyear⟩ := fixed_eq_some_iff.1 hy
    obtain rfl := char_eq_some_iff.1 hdash
    obtain ⟨month, rfl, hmonth⟩ := fixed_eq_some_iff.1 hm
    obtain rfl := char_eq_some_iff.1 hdash'
    obtain ⟨day, rfl, hday⟩ := fixed_eq_some_iff.1 hd
    obtain ⟨separator, rfl, hseparator⟩ := separator_eq_some_iff.1 hsep
    obtain ⟨hour, rfl, hhour⟩ := fixed_eq_some_iff.1 hh
    obtain rfl := char_eq_some_iff.1 hcolon
    obtain ⟨minute, rfl, hminute⟩ := fixed_eq_some_iff.1 hmin
    obtain rfl := char_eq_some_iff.1 hcolon'
    obtain ⟨second, rfl, hsecond⟩ := fixed_eq_some_iff.1 hs
    obtain ⟨fraction, rfl, hfraction⟩ := exists_of_fraction hms
    obtain ⟨zone, rfl, hzone⟩ := exists_of_zone hoff
    rw [List.append_nil]
    exact ⟨_, time, offset, .intro hyear hmonth hday hseparator hhour hminute hsecond hfraction hzone
      htime, hlocal⟩
  · cases hlocal

/-- A date and a time with a zone are read as the moment that they name. -/
theorem IsZoned.zoned_eq {cs : List Char} {date : Date} {time : TimeOfDay} {offset : Int}
    (h : IsZoned cs date time offset) : zoned cs = Timestamp.ofLocal? date time offset := by
  obtain ⟨hyear, hmonth, hday, hseparator, hhour, hminute, hsecond, hfraction, hzone, htime⟩ := h
  have hfield {width n : Nat} {digits : List Char} (h : IsField width digits n) (rest : List Char) :
      fixed width (digits ++ rest) = some (n, rest) := fixed_eq_some_iff.2 ⟨digits, rfl, h⟩
  have hend := @zone_append _ [] _ hzone
  rw [List.append_nil] at hend
  rw [zoned]
  simp only [Option.bind_eq_bind]
  rw [hfield hyear, Option.bind_some, char_cons, Option.bind_some, hfield hmonth, Option.bind_some,
    char_cons, Option.bind_some, hfield hday, Option.bind_some,
    separator_eq_some_iff.2 ⟨_, rfl, hseparator⟩, Option.bind_some, hfield hhour, Option.bind_some,
    char_cons, Option.bind_some, hfield hminute, Option.bind_some, char_cons, Option.bind_some,
    hfield hsecond, Option.bind_some, fraction_append hfraction hzone.head?_ne, Option.bind_some,
    hend, Option.bind_some, htime, Option.bind_some]
  rfl

/-- The year of a date with a zone has four digits, and its zone is less than a day away. -/
theorem IsZoned.bounds {cs : List Char} {date : Date} {time : TimeOfDay} {offset : Int}
    (h : IsZoned cs date time offset) :
    (0 ≤ date.year ∧ date.year ≤ 9999) ∧ time.seconds < 86400 ∧ -86400 < offset ∧
      offset < 86400 := by
  obtain ⟨hyear, -, -, -, -, -, -, -, hzone, htime⟩ := h
  have hlt := digitsValue_lt hyear.digits.2
  rw [hyear.length, hyear.value] at hlt
  exact ⟨⟨Int.natCast_nonneg _, by dsimp only; omega⟩, (TimeOfDay.bounds_of_ofFields? htime).1,
    hzone.bounds⟩

/-- Whether a text is a date and a time with a zone, in the form of RFC 3339, and the date exists. The
minus sign `U+2212` counts as a hyphen in front of the hours of a zone. -/
def HasZone (cs : List Char) : Prop :=
  ∃ date time offset, IsZoned cs date time offset ∧ date.isValid = true

/-- The texts that are read with a zone are those that have the form. -/
theorem zoned_isSome_iff {cs : List Char} : (zoned cs).isSome = true ↔ HasZone cs := by
  constructor
  · intro h
    obtain ⟨t, ht⟩ := Option.isSome_iff_exists.1 h
    obtain ⟨date, time, offset, hzoned, hlocal⟩ := exists_of_zoned ht
    exact ⟨date, time, offset, hzoned, Timestamp.isValid_of_ofLocal? hlocal⟩
  · rintro ⟨date, time, offset, hzoned, hvalid⟩
    obtain ⟨hyear, hseconds, hoffset⟩ := hzoned.bounds
    rw [hzoned.zoned_eq]
    exact Timestamp.ofLocal?_isSome hvalid hyear hseconds hoffset

/-! ## Texts without a zone. -/

theorem fraction_lt {cs rest : List Char} {millis : Nat} (h : fraction cs = some (millis, rest)) :
    millis < 1000 := by
  obtain ⟨front, -, hfraction⟩ := exists_of_fraction h
  cases hfraction with
  | none => decide
  | @point digits hdigits =>
    have hfilled := isDigits_filled hdigits.2 hdigits.1
    have hlt := digitsValue_lt hfilled.2
    have hle := Nat.pow_le_pow_right (show 10 > 0 by decide)
      (List.length_take_le 3 (digits ++ ['0', '0']))
    omega

theorem millis_lt_of_lenientTime {withSeconds : Bool} {cs rest : List Char} {time : TimeOfDay}
    (h : lenientTime withSeconds cs = some (time, rest)) : time.millis < 2000 := by
  obtain ⟨⟨hour, cs₁⟩, -, h⟩ := Option.bind_eq_some_iff.1 h
  obtain ⟨cs₂, -, h⟩ := Option.bind_eq_some_iff.1 h
  obtain ⟨⟨minute, cs₃⟩, -, h⟩ := Option.bind_eq_some_iff.1 h
  cases withSeconds with
  | false =>
    obtain ⟨time', htime, h⟩ := Option.bind_eq_some_iff.1 h
    obtain ⟨rfl, -⟩ := Prod.mk.inj (Option.some.inj h)
    have hbound := (TimeOfDay.bounds_of_ofFields? htime).2
    omega
  | true =>
    obtain ⟨cs₄, -, h⟩ := Option.bind_eq_some_iff.1 h
    obtain ⟨⟨second, cs₅⟩, -, h⟩ := Option.bind_eq_some_iff.1 h
    obtain ⟨⟨millis, cs₆⟩, hmillis, h⟩ := Option.bind_eq_some_iff.1 h
    obtain ⟨time', htime, h⟩ := Option.bind_eq_some_iff.1 h
    obtain ⟨rfl, -⟩ := Prod.mk.inj (Option.some.inj h)
    have hbound := (TimeOfDay.bounds_of_ofFields? htime).2
    have hlt := fraction_lt hmillis
    omega

theorem millis_lt_of_localDateTime {withSeconds : Bool} {cs : List Char} {date : Date}
    {time : TimeOfDay} (h : localDateTime withSeconds cs = some (date, time)) :
    time.millis < 2000 := by
  obtain ⟨⟨date', cs₁⟩, -, h⟩ := Option.bind_eq_some_iff.1 h
  obtain ⟨⟨time', cs₂⟩, htime, h⟩ := Option.bind_eq_some_iff.1 h
  dsimp only at h
  split at h
  · obtain ⟨-, rfl⟩ := Prod.mk.inj (Option.some.inj h)
    exact millis_lt_of_lenientTime htime
  · cases h

/-- A local time has less than two seconds of milliseconds, the leap second included. -/
theorem millis_lt_of_localForm {cs : List Char} {date : Date} {time : TimeOfDay}
    (h : localForm cs = some (date, time)) : time.millis < 2000 := by
  rcases Option.or_eq_some_iff.1 h with h | ⟨-, h⟩
  · exact millis_lt_of_localDateTime h
  · rcases Option.or_eq_some_iff.1 h with h | ⟨-, h⟩
    · exact millis_lt_of_localDateTime h
    · -- A date alone stands for its beginning.
      obtain ⟨⟨date', cs₁⟩, -, h⟩ := Option.bind_eq_some_iff.1 h
      dsimp only at h
      split at h
      · obtain ⟨-, rfl⟩ := Prod.mk.inj (Option.some.inj h)
        decide
      · cases h

end Calendar

namespace Timestamp

theorem read?_of_hasZone {cs : List Char} (h : Calendar.HasZone cs) (offset : Int) :
    read? offset cs = Calendar.zoned cs := by
  obtain ⟨t, ht⟩ := Option.isSome_iff_exists.1 (Calendar.zoned_isSome_iff.2 h)
  rw [read?, ht, Option.some_or]

theorem read?_of_not_hasZone {cs : List Char} (h : ¬ Calendar.HasZone cs) (offset : Int) :
    read? offset cs =
      (Calendar.localForm cs).bind fun (date, time) => ofLocal? date time offset := by
  have hnone : Calendar.zoned cs = none := by
    simpa using mt Calendar.zoned_isSome_iff.1 h
  rw [read?, hnone, Option.none_or]

/-- Two default offsets read a text with a zone as the same moment, and any other text as moments
that are as far apart as the offsets, in the other direction. -/
theorem read?_shifts {cs : List Char} {offset offset' : Int} {a b : Timestamp}
    (ha : read? offset cs = some a) (hb : read? offset' cs = some b) :
    (Calendar.HasZone cs ∧ a = b) ∨
      (¬ Calendar.HasZone cs ∧ a.millis.toInt - b.millis.toInt = (offset' - offset) * 1000) := by
  by_cases hzone : Calendar.HasZone cs
  · rw [read?_of_hasZone hzone] at ha hb
    exact .inl ⟨hzone, Option.some.inj (ha.symm.trans hb)⟩
  · rw [read?_of_not_hasZone hzone] at ha hb
    obtain ⟨⟨date, time⟩, hform, ha⟩ := Option.bind_eq_some_iff.1 ha
    rw [hform, Option.bind_some] at hb
    -- The local time is the same, and only the offset is taken from it.
    have hmillis := Calendar.millis_lt_of_localForm hform
    rw [toInt_millis_of_ofLocal? ha hmillis, toInt_millis_of_ofLocal? hb hmillis]
    exact .inr ⟨hzone, by omega⟩

/-- In a leap second at the end of the year in front of year zero. -/
theorem read?_shifts_leapSecond :
    read? 86399 "-1-12-31 23:59:60.5".toList = some ⟨-62167305598500⟩ ∧
      read? (-86399) "-1-12-31 23:59:60.5".toList = some ⟨-62167132800500⟩ ∧
      ¬ Calendar.HasZone "-1-12-31 23:59:60.5".toList ∧
      (-62167305598500 : Int64).toInt - (-62167132800500 : Int64).toInt =
        (-86399 - 86399) * 1000 := by
  have hfirst : read? 86399 "-1-12-31 23:59:60.5".toList = some ⟨-62167305598500⟩ := by decide
  have hsecond : read? (-86399) "-1-12-31 23:59:60.5".toList = some ⟨-62167132800500⟩ := by decide
  have hshift := (read?_shifts hfirst hsecond).resolve_left fun h => absurd h.2 (by decide)
  exact ⟨hfirst, hsecond, hshift⟩

end Timestamp

end FilterQuery
