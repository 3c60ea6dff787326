import FilterQuery.Proofs.IntegerFilters
import FilterQuery.Proofs.PrintedValues
import Mathlib.Data.List.TakeWhile

/-!
# Values read from their own texts

The text of a value is a literal that stands for the value: booleans, identifiers and moments in the
years of four digits are read back as they are, and integers as integers of the same number, whatever
machine type they come to. A moment is written with its zone, so that the default offset plays no part.

## Key results

- `Date.isValid_ofDayNumber`: the date of a day exists in the calendar
- `Timestamp.zoned_print`: a moment is read back from its date and time
- `Uuid.read?_print`: an identifier is read back from its groups of digits
- `read?_text`: the text of a value is read as a literal that compares equal to it
-/

namespace FilterQuery

/-! ## Dates. -/

namespace Date

theorem one_le_monthOfDay (month : Nat) (lengths : List Nat) (day : Nat) :
    1 ≤ (monthOfDay month lengths day).2 := by
  induction lengths generalizing month day with
  | nil => exact Nat.le_add_left 1 day
  | cons length lengths ih =>
    rw [monthOfDay]
    split
    · exact Nat.le_add_left 1 day
    · exact ih _ _

/-- The date of a day exists, if its year is in range. -/
theorem isValid_ofDayNumber {n : Int} (hlow : yearRange.1 ≤ (ofDayNumber n).year)
    (hhigh : (ofDayNumber n).year ≤ yearRange.2) : (ofDayNumber n).isValid = true := by
  obtain ⟨m, length, hm, hmonth, hday, -⟩ := ofDayNumber_spec n
  have hone : 1 ≤ (ofDayNumber n).day :=
    one_le_monthOfDay 1 (monthLengths (yearOfDay (n + epoch)))
      (n + epoch - daysBeforeYear (yearOfDay (n + epoch))).toNat
  simp [isValid, hlow, hhigh, hmonth, hm, hone, hday]

end Date

/-! ## Moments. -/

theorem isDigits_printNat (n : Nat) : IsDigits (printNat n) :=
  ⟨Nat.toDigits_ne_nil, fun _ hc => isDigit_of_mem_printNat hc⟩

theorem readDigits_printNat (n : Nat) : readDigits (printNat n) = some n := by
  have hall : (printNat n).all Char.isDigit = true :=
    List.all_eq_true.2 (isDigits_printNat n).2
  rw [readDigits, if_pos ⟨(isDigits_printNat n).1, hall⟩, printNat, Nat.ofDigitChars_ten_toDigits]

namespace Timestamp

/-- Zeros in front of digits do not change what is read. -/
theorem readDigits_printPadded (width n : Nat) : readDigits (printPadded width n) = some n := by
  have hne : printPadded width n ≠ [] := by
    simp [printPadded, (isDigits_printNat n).1]
  have hall : (printPadded width n).all Char.isDigit = true :=
    List.all_eq_true.2 fun _ hc => isDigit_of_mem_printPadded hc
  rw [readDigits, if_pos ⟨hne, hall⟩, printPadded, printNat, Nat.ofDigitChars_append,
    Nat.ofDigitChars_replicate_zero, Nat.mul_zero, Nat.ofDigitChars_ten_toDigits]

end Timestamp

namespace Calendar

open Timestamp (printPadded readDigits_printPadded length_printPadded isDigit_of_mem_printPadded)

/-- A field of a fixed width is read back. -/
theorem fixed_printPadded {width n : Nat} (hwidth : 0 < width) (hn : n < 10 ^ width)
    (rest : List Char) : fixed width (printPadded width n ++ rest) = some (n, rest) := by
  have hlength := length_printPadded hwidth hn
  rw [fixed, List.take_left' hlength, List.drop_left' hlength, if_pos hlength,
    readDigits_printPadded]
  rfl

/-- Three decimals in front of a zone are read as milliseconds. -/
theorem fraction_printPadded {n : Nat} (hn : n < 1000) :
    fraction ('.' :: (printPadded 3 n ++ ['Z'])) = some (n, ['Z']) := by
  have hlength : (printPadded 3 n).length = 3 := length_printPadded (by decide) hn
  have hdigits : (printPadded 3 n ++ ['Z']).takeWhile Char.isDigit = printPadded 3 n := by
    rw [List.takeWhile_append_of_pos fun _ hc => isDigit_of_mem_printPadded hc]
    exact List.append_nil _
  have hne : (printPadded 3 n).isEmpty = false := by
    rw [List.isEmpty_eq_false_iff]
    exact List.ne_nil_of_length_pos (by omega)
  rw [fraction, hdigits, List.take_left' hlength, readDigits_printPadded, Option.bind_some, hne,
    List.drop_left' rfl]
  rfl

theorem char_cons (c : Char) (rest : List Char) : char c (c :: rest) = some rest := by
  simp [char]

end Calendar

namespace Timestamp

/-- The time of day of the moment. -/
def timeOfDay (t : Timestamp) : TimeOfDay where
  hour := t.millisOfDay / 1000 / 3600
  minute := t.millisOfDay / 1000 / 60 % 60
  second := t.millisOfDay / 1000 % 60
  millis := t.millisOfDay % 1000

theorem millisOfDay_lt (t : Timestamp) : t.millisOfDay < 86400000 := by
  unfold millisOfDay
  omega

theorem seconds_timeOfDay (t : Timestamp) : t.timeOfDay.seconds = t.millisOfDay / 1000 := by
  simp only [TimeOfDay.seconds, timeOfDay]
  omega

theorem timeOfDay_le (t : Timestamp) :
    t.timeOfDay.hour ≤ 23 ∧ t.timeOfDay.minute ≤ 59 ∧ t.timeOfDay.second ≤ 59 ∧
      t.timeOfDay.millis < 1000 := by
  have hlt := millisOfDay_lt t
  simp only [timeOfDay]
  omega

/-- The fields that are written of a time of day make up the time again. -/
theorem ofFields?_timeOfDay (t : Timestamp) :
    TimeOfDay.ofFields? t.timeOfDay.hour t.timeOfDay.minute t.timeOfDay.second t.timeOfDay.millis =
      some t.timeOfDay := by
  obtain ⟨hhour, hminute, hsecond, -⟩ := timeOfDay_le t
  rw [TimeOfDay.ofFields?, if_pos ⟨hhour, hminute⟩, if_pos hsecond]

/-- A moment comes back from its date and its time of day in universal time. -/
theorem ofLocal?_date {t : Timestamp} (hlow : yearRange.1 ≤ t.date.year)
    (hhigh : t.date.year ≤ yearRange.2) : ofLocal? t.date t.timeOfDay 0 = some t := by
  have hlt := millisOfDay_lt t
  have hday : t.date.dayNumber = t.dayNumber := Date.dayNumber_ofDayNumber t.dayNumber
  -- The time of day does not lead out of the day.
  have hsame : (t.dayNumber * 86400 + ((t.millisOfDay / 1000 : Nat) : Int) - 0) / 86400 =
      t.dayNumber := by
    omega
  have hmillis : (t.dayNumber * 86400 + ((t.millisOfDay / 1000 : Nat) : Int) - 0) * 1000 +
      (t.timeOfDay.millis : Int) = t.millis.toInt := by
    simp only [dayNumber, millisOfDay, timeOfDay]
    omega
  simp only [ofLocal?]
  rw [hday, seconds_timeOfDay, hsame, hmillis, Int64.ofInt_toInt]
  exact if_pos ⟨Date.isValid_ofDayNumber hlow hhigh, hlow, hhigh⟩

/-- The fields of a moment in the years of four digits, as they are written. -/
theorem print_eq_fields {t : Timestamp} (hlow : 0 ≤ t.date.year) (hhigh : t.date.year ≤ 9999) :
    t.print = printPadded 4 t.date.year.toNat ++ '-' :: (printPadded 2 t.date.month ++
      '-' :: (printPadded 2 t.date.day ++ 'T' :: (printPadded 2 t.timeOfDay.hour ++
      ':' :: (printPadded 2 t.timeOfDay.minute ++ ':' :: (printPadded 2 t.timeOfDay.second ++
      '.' :: (printPadded 3 t.timeOfDay.millis ++ ['Z'])))))) := by
  have hdate : t.hasDate = true := by
    have hrange : yearRange.1 ≤ t.date.year ∧ t.date.year ≤ yearRange.2 := by
      unfold yearRange
      omega
    simp [hasDate, hrange]
  have hyear : printYear t.date.year = printPadded 4 t.date.year.toNat := by
    rw [printYear, if_pos ⟨hlow, hhigh⟩]
  rw [print, if_pos hdate, hyear]
  simp only [List.append_assoc, List.cons_append]
  rfl

/-- A moment in the years of four digits is read back from its date and time. -/
theorem zoned_print {t : Timestamp} (hlow : 0 ≤ t.date.year) (hhigh : t.date.year ≤ 9999) :
    Calendar.zoned t.print = some t := by
  obtain ⟨hmonth, hday⟩ : t.date.month < 100 ∧ t.date.day < 100 := Date.ofDayNumber_lt t.dayNumber
  obtain ⟨hhour, hminute, hsecond, hmillis⟩ := timeOfDay_le t
  have hrange : yearRange.1 ≤ t.date.year ∧ t.date.year ≤ yearRange.2 := by
    unfold yearRange
    omega
  have hdate : (⟨(t.date.year.toNat : Int), t.date.month, t.date.day⟩ : Date) = t.date := by
    rw [Int.toNat_of_nonneg hlow]
  have hzone : Calendar.zone ['Z'] = some (0, []) := rfl
  have hyear := @Calendar.fixed_printPadded 4 t.date.year.toNat (by decide) (by omega)
  have hfield {n : Nat} (hn : n < 100) := @Calendar.fixed_printPadded 2 n (by decide) hn
  rw [print_eq_fields hlow hhigh, Calendar.zoned]
  simp only [Option.bind_eq_bind]
  -- The fields come off the front of the text one by one, and each has the width it is read with.
  rw [hyear, Option.bind_some, Calendar.char_cons, Option.bind_some, hfield hmonth, Option.bind_some,
    Calendar.char_cons, Option.bind_some, hfield hday, Option.bind_some, Calendar.char_cons,
    Option.some_or, Option.bind_some, hfield (Nat.lt_of_le_of_lt hhour (by decide)),
    Option.bind_some, Calendar.char_cons, Option.bind_some,
    hfield (Nat.lt_of_le_of_lt hminute (by decide)), Option.bind_some, Calendar.char_cons,
    Option.bind_some, hfield (Nat.lt_of_le_of_lt hsecond (by decide)), Option.bind_some,
    Calendar.fraction_printPadded hmillis, Option.bind_some, hzone, Option.bind_some]
  simp only [ofFields?_timeOfDay, Option.bind_some, hdate, List.isEmpty_nil, if_true,
    ofLocal?_date hrange.1 hrange.2]

/-- There is no white space in the text of a moment. -/
theorem isBlank_of_mem_print {t : Timestamp} (hlow : 0 ≤ t.date.year) (hhigh : t.date.year ≤ 9999) :
    ∀ c ∈ t.print, Text.isBlank c = false := by
  have hfield : ∀ width n, ∀ c ∈ printPadded width n, Text.isBlank c = false := fun _ _ _ hc =>
    Text.isBlank_eq_false_of_isDigit (isDigit_of_mem_printPadded hc)
  rw [print_eq_fields hlow hhigh]
  simp only [List.forall_mem_append, List.forall_mem_cons]
  exact ⟨hfield _ _, by decide, hfield _ _, by decide, hfield _ _, by decide, hfield _ _, by decide,
    hfield _ _, by decide, hfield _ _, by decide, hfield _ _, by decide, by simp⟩

end Timestamp

/-! ## Identifiers. -/

namespace Uuid

theorem length_digits (u : Uuid) : u.digits.length = 32 := by
  rw [digits, List.length_map, List.length_range]

/-- The groups of digits between the hyphens. -/
theorem splitOnP_print (u : Uuid) :
    u.print.splitOnP (· == '-') = [u.digits.take 8, (u.digits.drop 8).take 4,
      (u.digits.drop 12).take 4, (u.digits.drop 16).take 4, u.digits.drop 20] := by
  have hgroup : ∀ {group : List Char}, (∀ c ∈ group, c ∈ u.digits) →
      ∀ c ∈ group, (c == '-') = false := by
    intro group hgroup c hc
    exact beq_eq_false_iff_ne.2 fun heq => minus_not_mem_digits u (heq ▸ hgroup c hc)
  have hdrop : ∀ n, ∀ c ∈ u.digits.drop n, c ∈ u.digits := fun _ _ hc => List.mem_of_mem_drop hc
  have htake : ∀ n m, ∀ c ∈ (u.digits.drop n).take m, c ∈ u.digits :=
    fun n _ c hc => hdrop n c (List.mem_of_mem_take hc)
  rw [print]
  simp only [List.append_assoc, List.cons_append]
  rw [List.splitOnP_append_cons_of_forall_mem (hgroup fun _ hc => List.mem_of_mem_take hc) '-' rfl,
    List.splitOnP_append_cons_of_forall_mem (hgroup (htake 8 4)) '-' rfl,
    List.splitOnP_append_cons_of_forall_mem (hgroup (htake 12 4)) '-' rfl,
    List.splitOnP_append_cons_of_forall_mem (hgroup (htake 16 4)) '-' rfl,
    List.splitOnP_eq_singleton (hgroup (hdrop 20))]

theorem readHyphenated?_print (u : Uuid) : readHyphenated? u.print = some u := by
  have hlengths : ([u.digits.take 8, (u.digits.drop 8).take 4, (u.digits.drop 12).take 4,
      (u.digits.drop 16).take 4, u.digits.drop 20].map List.length) = [8, 4, 4, 4, 12] := by
    simp [length_digits]
  have hflatten : [u.digits.take 8, (u.digits.drop 8).take 4, (u.digits.drop 12).take 4,
      (u.digits.drop 16).take 4, u.digits.drop 20].flatten = u.digits := by
    simpa using append_groups u
  simp only [readHyphenated?, splitOnP_print]
  rw [if_pos hlengths, hflatten, readDigits?_digits]

theorem length_print (u : Uuid) : u.print.length = 36 := by
  simp [print, length_digits]

theorem exists_digitChar_of_mem {u : Uuid} {c : Char} (h : c ∈ u.digits) :
    ∃ n : Fin 16, c = Nat.digitChar n := by
  obtain ⟨i, -, rfl⟩ := List.mem_map.1 h
  exact ⟨⟨_, Nat.mod_lt _ (by decide)⟩, rfl⟩

/-- The text of an identifier begins with a digit, so it is neither in braces nor the name of a
resource. -/
theorem exists_print_eq_cons (u : Uuid) :
    ∃ d rest, u.print = d :: rest ∧ d ≠ '{' ∧ d.toLower ≠ 'u' := by
  have hne : u.digits ≠ [] := List.ne_nil_of_length_pos (by rw [length_digits]; decide)
  obtain ⟨d, ds, hdigits⟩ := List.exists_cons_of_ne_nil hne
  obtain ⟨n, rfl⟩ := exists_digitChar_of_mem (hdigits ▸ List.mem_cons_self : d ∈ u.digits)
  have hall : ∀ n : Fin 16, Nat.digitChar n ≠ '{' ∧ (Nat.digitChar n).toLower ≠ 'u' := by decide
  have htext : ∃ rest, u.print = Nat.digitChar n :: rest := by
    rw [print, hdigits]
    exact ⟨_, rfl⟩
  obtain ⟨rest, hprint⟩ := htext
  exact ⟨_, rest, hprint, hall n⟩

/-- An identifier is read back from its groups of digits. -/
theorem read?_print (u : Uuid) : read? u.print = some u := by
  -- The hyphens make it too long for digits alone, so it is read by its groups.
  have hlong : readDigits? u.print = none := by
    rw [readDigits?, length_print, if_neg (by decide)]
  have hread := readHyphenated?_print u
  obtain ⟨d, rest, hprint, hbrace, hletter⟩ := exists_print_eq_cons u
  rw [hprint] at hlong hread ⊢
  have hmark : ((d :: rest).take resourceMark.length).map Char.toLower ≠ resourceMark :=
    fun heq => hletter (List.cons.inj heq).1
  rw [read?, if_neg hmark, hlong, Option.none_or, hread]
  exact fun _ heq => hbrace (List.cons.inj heq).1

/-- There is no white space in the text of an identifier. -/
theorem isBlank_of_mem_print {u : Uuid} {c : Char} (h : c ∈ u.print) : Text.isBlank c = false := by
  by_cases hminus : c = '-'
  · subst hminus
    decide
  · have hdigit : c ∈ u.digits := by
      rw [← filter_print]
      exact List.mem_filter.2 ⟨h, bne_iff_ne.2 hminus⟩
    obtain ⟨n, rfl⟩ := exists_digitChar_of_mem hdigit
    have hall : ∀ n : Fin 16, Text.isBlank (Nat.digitChar n) = false := by decide
    exact hall n

end Uuid

/-! ## Integers. -/

theorem digitsValue_printNat (n : Nat) : digitsValue (printNat n) = n := by
  have hread := readDigits_of_isDigits (isDigits_printNat n)
  rw [readDigits_printNat] at hread
  exact (Option.some.inj hread).symm

/-- The text of an integer is a numeral that stands for it. -/
theorem isNumeral_printInt (n : Int) : IsNumeral (printInt n) n := by
  unfold printInt
  split
  · have hnumeral := IsNumeral.minus (isDigits_printNat n.natAbs)
    rwa [digitsValue_printNat, show -(n.natAbs : Int) = n by omega] at hnumeral
  · have hnumeral := IsNumeral.unsigned (isDigits_printNat n.natAbs)
    rwa [digitsValue_printNat, show (n.natAbs : Int) = n by omega] at hnumeral

namespace Number

theorem print_eq_printInt {number : Number} {n : Int} (h : number.toInt? = some n) :
    number.print = printInt n := by
  cases number with
  | signed m =>
    cases h
    rfl
  | unsigned m =>
    cases h
    simp [print, printInt]
  | double x => cases h

theorem toInt?_range {number : Number} {n : Int} (h : number.toInt? = some n) :
    Int64.minValue.toInt ≤ n ∧ n < UInt64.size := by
  rw [Int64.toInt_minValue]
  unfold UInt64.size
  cases number with
  | signed m =>
    cases h
    have hlow := m.le_toInt
    have hhigh := m.toInt_lt
    omega
  | unsigned m =>
    cases h
    have hhigh := m.toNat_lt
    omega
  | double x => cases h

/-- An integer is read back from its text, as an integer of one type or the other. -/
theorem exists_read?_print {number : Number} {n : Int} (h : number.toInt? = some n) :
    ∃ literal, read? number.print = some literal ∧ literal.toInt? = some n := by
  rw [print_eq_printInt h]
  exact exists_read? (readInteger_of_isNumeral (isNumeral_printInt n)) (toInt?_range h).1
    (toInt?_range h).2

end Number

/-! ## Values. -/

/-- Whether a value is told by its text, to the very bit: a boolean, an identifier, an integer, or a
moment in the years of four digits. -/
def Value.HasExactText : Value → Prop
  | .bool _ | .uuid _ => True
  | .number n => n.toInt?.isSome = true
  | .timestamp t => 0 ≤ t.date.year ∧ t.date.year ≤ 9999
  | _ => False

/-- Values that are set are ordered as such. -/
theorem Value.compare?_of_compareSet? {v w : Value} {o : Ordering}
    (h : v.compareSet? false w = some o) : v.compare? w = some o := by
  cases v <;> cases w <;> first | exact h | cases h

/-- The text of such a value, alone, is read as a literal that compares equal to the value. -/
theorem Value.HasExactText.exists_read? {v : Value} (h : v.HasExactText) :
    ∃ kind cs literal, v.kind? = some kind ∧ v.print? = some cs ∧ cs ≠ [] ∧
      (∀ c ∈ cs, Text.isBlank c = false) ∧
      (∀ raw, Text.trim raw.toList = cs → ∀ offset, read? kind offset raw = some literal) ∧
      ∀ ignoreCase, v.compareSet? ignoreCase literal = some .eq := by
  cases v with
  | string s => exact h.elim
  | absent => exact h.elim
  | bool b =>
    have hword : ∀ c ∈ if b then "true".toList else "false".toList, c.isAlpha = true := by
      cases b <;> simp
    refine ⟨.bool, _, .bool b, rfl, rfl, ?_, fun c hc => Text.isBlank_eq_false_of_isAlpha (hword c hc),
      ?_, ?_⟩
    · cases b <;> exact List.cons_ne_nil _ _
    · intro raw hraw offset
      simp only [read?, hraw]
      cases b <;> rfl
    · intro _
      cases b <;> rfl
  | uuid u =>
    refine ⟨.uuid, _, .uuid u, rfl, rfl, ?_, fun c hc => Uuid.isBlank_of_mem_print hc, ?_, ?_⟩
    · exact List.ne_nil_of_length_pos (by rw [Uuid.length_print]; decide)
    · intro raw hraw offset
      simp only [read?, hraw, Uuid.read?_print]
      rfl
    · intro _
      simp [compareSet?, Uuid.compareBits]
  | timestamp t =>
    refine ⟨.timestamp, _, .timestamp t, rfl, rfl, ?_, Timestamp.isBlank_of_mem_print h.1 h.2, ?_, ?_⟩
    · simp [Timestamp.print_eq_fields h.1 h.2]
    · intro raw hraw offset
      simp only [read?, hraw, Timestamp.read?, Timestamp.zoned_print h.1 h.2]
      rfl
    · intro _
      simp [compareSet?, Timestamp.compareTime]
  | number number =>
    obtain ⟨n, hn⟩ := Option.isSome_iff_exists.1 h
    obtain ⟨literal, hread, hliteral⟩ := Number.exists_read?_print hn
    have hnumeral : IsNumeral number.print n := by
      rw [Number.print_eq_printInt hn]
      exact isNumeral_printInt n
    refine ⟨.number, _, .number literal, rfl, rfl, hnumeral.ne_nil, hnumeral.isBlank_eq_false, ?_, ?_⟩
    · intro raw hraw offset
      simp only [read?, hraw, hread]
      rfl
    · intro _
      simp [compareSet?, Number.compare?_of_toInt? hn hliteral]

/-- The text of a boolean, an identifier, an integer, or a moment in the years of four digits is read as
a literal that compares equal to the value, with white space around the text or without, and at any
default offset. -/
theorem Value.read?_text {v : Value} (h : v.HasExactText) :
    ∃ kind text literal, v.kind? = some kind ∧ v.text? = some text ∧
      (∀ lead trail : String, (∀ c ∈ lead.toList, Text.isBlank c = true) →
        (∀ c ∈ trail.toList, Text.isBlank c = true) →
        ∀ offset, read? kind offset (lead ++ text ++ trail) = some literal) ∧
      v.compare? literal = some .eq ∧ ∀ ignoreCase, v.compareSet? ignoreCase literal = some .eq := by
  obtain ⟨kind, cs, literal, hkind, hprint, hne, hblank, hread, hcompare⟩ := h.exists_read?
  have htext : v.text? = some (String.ofList cs) := by
    rw [text?, hprint]
    rfl
  refine ⟨kind, String.ofList cs, literal, hkind, htext, ?_, compare?_of_compareSet? (hcompare false),
    hcompare⟩
  intro lead trail hlead htrail offset
  apply hread
  rw [String.toList_append, String.toList_append, String.toList_ofList]
  exact Text.trim_append hlead hblank hne htrail

/-- The last millisecond before 1970 is read from its text with white space around it, at any default
offset. -/
theorem Value.read?_text_beforeEpoch :
    Value.HasExactText (.timestamp ⟨-1⟩) ∧
      ∃ literal, (∀ offset,
        Value.read? .timestamp offset "\t1969-12-31T23:59:59.999Z " = some literal) ∧
        Value.compare? (.timestamp ⟨-1⟩) literal = some .eq := by
  have hexact : Value.HasExactText (.timestamp ⟨-1⟩) := by
    constructor <;> decide +kernel
  obtain ⟨kind, text, literal, hkind, htext, hread, hcompare, -⟩ := Value.read?_text hexact
  have hprinted : Value.text? (.timestamp ⟨-1⟩) = some "1969-12-31T23:59:59.999Z" := by
    decide +kernel
  rw [hprinted] at htext
  cases hkind
  cases htext
  refine ⟨hexact, literal, fun offset => ?_, hcompare⟩
  exact hread "\t" " " (List.all_eq_true.1 (by decide)) (List.all_eq_true.1 (by decide)) offset

end FilterQuery
