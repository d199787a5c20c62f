import RowFilter.Calendar.Date

/-! Moments of a day, and the forms in which they are written. -/

namespace RowFilter

/-- A date with a time of day, where the second sixty is a leap second. -/
structure Moment where
  date : Date
  hour : Nat
  minute : Nat
  second : Nat
  nanosecond : Nat
deriving DecidableEq

/-- A number with zeros in front up to a width. -/
def paddedDigits (width number : Nat) : List Char :=
  -- A number that is wider already is not cut.
  let digits := Nat.toDigits 10 number
  List.replicate (width - digits.length) '0' ++ digits

namespace Date

/-- Four digits, or a sign and at least four digits outside the years 0 to 9999. -/
def yearChars (year : Int) : List Char :=
  -- A sign tells where the number of digits is not fixed.
  if 0 ≤ year ∧ year < 10000 then paddedDigits 4 year.toNat
  else (if year < 0 then '-' else '+') :: paddedDigits 4 year.natAbs

/-- Year, month and day with hyphens between them. -/
def chars (date : Date) : List Char :=
  -- Only the year can be wider than its place.
  yearChars date.year ++ '-' :: (paddedDigits 2 date.month ++ '-' :: paddedDigits 2 date.day)

end Date

namespace Moment

/-- Hour, minute and second with colons between them. -/
def clockChars (moment : Moment) : List Char :=
  -- All three numbers are written with two digits, a leap second as 60.
  paddedDigits 2 moment.hour ++ ':' :: (paddedDigits 2 moment.minute
    ++ ':' :: paddedDigits 2 moment.second)

/-- The canonical text of a moment: date, blank, time, without fractions. -/
def chars (moment : Moment) : List Char := moment.date.chars ++ ' ' :: moment.clockChars

/-- The text of a moment in universal time with six digits of its fraction. -/
def isoChars (moment : Moment) : List Char :=
  -- What the clock has beyond microseconds is cut off.
  moment.date.chars ++ 'T' :: (moment.clockChars
    ++ '.' :: (paddedDigits 6 (moment.nanosecond / 1000) ++ ['Z']))

/-- A day has 1440 minutes. -/
def minutesPerDay : Int := 1440

/-- The moment some minutes earlier, within the day before and the day after. -/
def earlier (moment : Moment) (minutes : Int) : Moment :=
  -- An offset is shorter than a day, so that the date moves by one day at most.
  let total := moment.hour * 60 + moment.minute - minutes
  let date :=
    if total < 0 then moment.date.previous
    else if minutesPerDay ≤ total then moment.date.next
    else moment.date
  let inDay := (total % minutesPerDay).toNat
  { moment with date, hour := inDay / 60, minute := inDay % 60 }

/-- The moment of a timestamp; a second that ends a minute may run on for one more second. -/
def ofTimestamp? (seconds : Int) (nanoseconds : Nat) : Option Moment :=
  -- The second is counted within its day, where sixty minutes have no room for a leap second.
  let date := Date.ofDayNumber (seconds / 86400)
  let inDay := (seconds % 86400).toNat
  let second := inDay % 60
  let moment (leap : Nat) : Moment :=
    ⟨date, inDay / 3600, inDay / 60 % 60, second + leap, nanoseconds - leap * 1000000000⟩
  if !date.isValid then none
  else if nanoseconds < 1000000000 then some (moment 0)
  -- An excess over one second stands for the leap second, which only follows second 59.
  else if nanoseconds < 2 * 1000000000 ∧ second = 59 then some (moment 1)
  else none

end Moment

end RowFilter
