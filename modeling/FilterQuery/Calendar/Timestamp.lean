import FilterQuery.Calendar.Date
import FilterQuery.Number.Decimal

/-! # Timestamps

A `Timestamp` is a moment, counted in milliseconds since the beginning of 1970 in universal time.
Within the years of `yearRange` it is written as a date and a time with three decimals. -/

namespace FilterQuery

/-- A moment in milliseconds since 1 January 1970, universal time. -/
structure Timestamp where
  millis : Int64
deriving DecidableEq, Repr, Inhabited

namespace Timestamp

/-- The timestamp of a number of seconds; the product wraps around at 64 bits. -/
def ofSeconds (seconds : Int64) : Timestamp := ⟨seconds * 1000⟩

/-- Whole seconds, cut off toward zero. -/
def seconds (t : Timestamp) : Int64 := t.millis / 1000

/-- Order in time. -/
def compareTime (a b : Timestamp) : Ordering := compare a.millis.toInt b.millis.toInt

/-- Number of the day that the moment lies in. -/
def dayNumber (t : Timestamp) : Int := t.millis.toInt / 86400000

/-- Milliseconds since the beginning of the day. -/
def millisOfDay (t : Timestamp) : Nat := (t.millis.toInt % 86400000).toNat

/-- The date of the moment. -/
def date (t : Timestamp) : Date := .ofDayNumber t.dayNumber

/-- Whether the date of the moment is in the range of years that are written as dates. -/
def hasDate (t : Timestamp) : Bool := yearRange.1 ≤ t.date.year && t.date.year ≤ yearRange.2

/-- The digits of a number, filled up with zeros from the left to the given width. -/
def printPadded (width n : Nat) : List Char :=
  List.replicate (width - (printNat n).length) '0' ++ printNat n

/-- A year with at least four digits, and with a sign unless it lies between 0 and 9999. -/
def printYear (year : Int) : List Char :=
  if 0 ≤ year ∧ year ≤ 9999 then printPadded 4 year.toNat
  else (if year < 0 then '-' else '+') :: printPadded 4 year.natAbs

/-- The text of the moment: date and time in universal time, or the plain number of milliseconds
where there is no date. -/
def print (t : Timestamp) : List Char :=
  if t.hasDate then
    let second := t.millisOfDay / 1000
    printYear t.date.year ++ '-' :: printPadded 2 t.date.month ++ '-' :: printPadded 2 t.date.day ++
      'T' :: printPadded 2 (second / 3600) ++ ':' :: printPadded 2 (second / 60 % 60) ++
      ':' :: printPadded 2 (second % 60) ++ '.' :: printPadded 3 (t.millisOfDay % 1000) ++ ['Z']
  else printInt t.millis.toInt

end Timestamp

end FilterQuery
