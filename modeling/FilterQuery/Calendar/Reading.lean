import FilterQuery.Calendar.Timestamp
import FilterQuery.Text.Blank

/-! # Reading timestamps

A timestamp is read from a date and a time with an explicit zone in strict form, or from a date with
an optional time in a lenient form without zone.  The lenient form stands for the local time at a
default offset from universal time; its fields may have fewer digits and white space in front.

Readers take a text and give a result with the rest of the text, or nothing. -/

namespace FilterQuery

/-- A time of day.  In a leap second `millis` lies between 1000 and 1999. -/
structure TimeOfDay where
  hour : Nat
  minute : Nat
  second : Nat := 0
  millis : Nat := 0
deriving DecidableEq, Repr

namespace TimeOfDay

/-- A time of day from its fields.  The second 60 is the leap second behind the second 59. -/
def ofFields? (hour minute second millis : Nat) : Option TimeOfDay :=
  if hour ≤ 23 ∧ minute ≤ 59 then
    if second ≤ 59 then some ⟨hour, minute, second, millis⟩
    else if second = 60 then some ⟨hour, minute, 59, 1000 + millis⟩
    else none
  else none

/-- Seconds since the beginning of the day, leap seconds apart. -/
def seconds (t : TimeOfDay) : Nat := t.hour * 3600 + t.minute * 60 + t.second

end TimeOfDay

/-- The timestamp of a local date and time at an offset of so many seconds from universal time, if
the date is valid and stays in range. -/
def Timestamp.ofLocal? (date : Date) (time : TimeOfDay) (offset : Int) : Option Timestamp :=
  let seconds := date.dayNumber * 86400 + time.seconds - offset
  let year := (Date.ofDayNumber (seconds / 86400)).year
  if date.isValid ∧ yearRange.1 ≤ year ∧ year ≤ yearRange.2 then
    some ⟨Int64.ofInt (seconds * 1000 + time.millis)⟩
  else none

namespace Calendar

/-- The given character. -/
def char (c : Char) : List Char → Option (List Char)
  | [] => none
  | d :: rest => if c == d then some rest else none

/-- A number of exactly so many digits. -/
def fixed (width : Nat) (cs : List Char) : Option (Nat × List Char) :=
  if (cs.take width).length = width then
    (readDigits (cs.take width)).map fun n => (n, cs.drop width)
  else none

/-- A number of at least one and at most so many digits. -/
def upTo (width : Nat) (cs : List Char) : Option (Nat × List Char) :=
  let digits := (cs.take width).takeWhile Char.isDigit
  (readDigits digits).map fun n => (n, cs.drop digits.length)

/-- White space, then a number of at most so many digits. -/
def lenient (width : Nat) (cs : List Char) : Option (Nat × List Char) := upTo width (Text.trimStart cs)

/-- White space, then a year: at most four digits, or a sign and any number of digits. -/
def lenientYear (cs : List Char) : Option (Int × List Char) :=
  let signed := fun (negative : Bool) (rest : List Char) =>
    (upTo rest.length rest).map fun (n, rest) => (if negative then -(n : Int) else n, rest)
  match Text.trimStart cs with
  | '-' :: rest => signed true rest
  | '+' :: rest => signed false rest
  | rest => (upTo 4 rest).map fun (n, rest) => ((n : Int), rest)

/-- An optional fraction of a second behind a point, in whole milliseconds; digits behind the third
are dropped. -/
def fraction : List Char → Option (Nat × List Char)
  | '.' :: rest =>
    -- A short fraction is filled up to three digits.
    let digits := rest.takeWhile Char.isDigit
    (readDigits ((digits ++ ['0', '0']).take 3)).bind fun millis =>
      if digits.isEmpty then none else some (millis, rest.drop digits.length)
  | cs => some (0, cs)

/-- The offset of a zone in seconds: the letter `Z`, or a sign, hours, a colon and minutes. -/
def zone : List Char → Option (Int × List Char)
  | [] => none
  | c :: rest =>
    let signed := fun (sign : Int) => do
      let (hours, rest) ← fixed 2 rest
      let rest ← char ':' rest
      let (minutes, rest) ← fixed 2 rest
      if minutes ≤ 59 ∧ hours ≤ 23 then
        some (sign * (hours * 3600 + minutes * 60 : Nat), rest)
      else none
    if c == 'Z' || c == 'z' then some (0, rest)
    else if c == '+' then signed 1
    else if c == '-' || c == '\u2212' then signed (-1)
    else none

/-- A date and a time with a zone, every field at full width. -/
def zoned (cs : List Char) : Option Timestamp := do
  let (year, cs) ← fixed 4 cs
  let cs ← char '-' cs
  let (month, cs) ← fixed 2 cs
  let cs ← char '-' cs
  let (day, cs) ← fixed 2 cs
  let cs ← (char 'T' cs).or ((char 't' cs).or (char ' ' cs))
  let (hour, cs) ← fixed 2 cs
  let cs ← char ':' cs
  let (minute, cs) ← fixed 2 cs
  let cs ← char ':' cs
  let (second, cs) ← fixed 2 cs
  let (millis, cs) ← fraction cs
  let (offset, cs) ← zone cs
  let time ← TimeOfDay.ofFields? hour minute second millis
  if cs.isEmpty then Timestamp.ofLocal? ⟨year, month, day⟩ time offset else none

/-- A date whose fields may be short. -/
def lenientDate (cs : List Char) : Option (Date × List Char) := do
  let (year, cs) ← lenientYear cs
  let cs ← char '-' cs
  let (month, cs) ← lenient 2 cs
  let cs ← char '-' cs
  let (day, cs) ← lenient 2 cs
  some (⟨year, month, day⟩, cs)

/-- A time whose fields may be short, with seconds if `withSeconds` says so. -/
def lenientTime (withSeconds : Bool) (cs : List Char) : Option (TimeOfDay × List Char) := do
  let (hour, cs) ← lenient 2 cs
  let cs ← char ':' cs
  let (minute, cs) ← lenient 2 cs
  if withSeconds then
    let cs ← char ':' cs
    let (second, cs) ← lenient 2 cs
    let (millis, cs) ← fraction cs
    let time ← TimeOfDay.ofFields? hour minute second millis
    some (time, cs)
  else
    let time ← TimeOfDay.ofFields? hour minute 0 0
    some (time, cs)

/-- A local date and time, separated by the letter `T` or by any amount of white space. -/
def localDateTime (withSeconds : Bool) (cs : List Char) : Option (Date × TimeOfDay) := do
  let (date, cs) ← lenientDate cs
  -- Where there is no letter, white space may stand, or nothing at all.
  let cs := (char 'T' cs).getD (Text.trimStart cs)
  let (time, cs) ← lenientTime withSeconds cs
  if cs.isEmpty then some (date, time) else none

/-- A local date and time, or a date alone, which stands for its beginning. -/
def localForm (cs : List Char) : Option (Date × TimeOfDay) :=
  (localDateTime true cs).or ((localDateTime false cs).or
    ((lenientDate cs).bind fun (date, cs) => if cs.isEmpty then some (date, ⟨0, 0, 0, 0⟩) else none))

end Calendar

/-- Reads a timestamp: with a zone, or else as local time at the given offset in seconds. -/
def Timestamp.read? (offset : Int) (cs : List Char) : Option Timestamp :=
  (Calendar.zoned cs).or
    ((Calendar.localForm cs).bind fun (date, time) => Timestamp.ofLocal? date time offset)

end FilterQuery
