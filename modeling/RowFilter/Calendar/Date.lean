/-! Dates of the proleptic Gregorian calendar. -/

namespace RowFilter

/-- A day by its year, month and day of the month. -/
structure Date where
  year : Int
  month : Nat
  day : Nat
deriving DecidableEq

namespace Date

/-- Every fourth year is a leap year, but of the centuries only every fourth one. -/
def isLeapYear (year : Int) : Bool :=
  -- The rule of the Gregorian calendar, which is carried back before its own time.
  year % 4 = 0 && (year % 100 ≠ 0 || year % 400 = 0)

/-- The number of days in a month. -/
def daysIn (year : Int) (month : Nat) : Nat :=
  -- Only February depends on the year.
  if month = 2 then (if isLeapYear year then 29 else 28)
  else if month = 4 ∨ month = 6 ∨ month = 9 ∨ month = 11 then 30
  else 31

/-- The first year that a date may have. -/
def firstYear : Int := -262143

/-- The last year that a date may have. -/
def lastYear : Int := 262142

/-- Whether a date names a day of the calendar within the years that are covered. -/
def isValid (date : Date) : Bool :=
  -- The bounds on the month come first, since a month outside of them has a length as well.
  firstYear ≤ date.year && date.year ≤ lastYear && 1 ≤ date.month && date.month ≤ 12
    && 1 ≤ date.day && date.day ≤ daysIn date.year date.month

/-- The day after. -/
def next (date : Date) : Date :=
  -- The end of a month and the end of a year each carry over to what is next larger.
  if date.day < daysIn date.year date.month then { date with day := date.day + 1 }
  else if date.month < 12 then ⟨date.year, date.month + 1, 1⟩
  else ⟨date.year + 1, 1, 1⟩

/-- The day before. -/
def previous (date : Date) : Date :=
  -- Going back over the start of a month needs the length of the month before.
  if 1 < date.day then { date with day := date.day - 1 }
  else if 1 < date.month then ⟨date.year, date.month - 1, daysIn date.year (date.month - 1)⟩
  else ⟨date.year - 1, 12, 31⟩

/-- The number of days before a month in a year that begins in March. -/
def daysBefore (monthFromMarch : Int) : Int := (153 * monthFromMarch + 2) / 5

/-- The number of days from the first of January 1970 to a date. -/
def dayNumber (date : Date) : Int :=
  -- The year is taken to begin in March, so that a leap day is the last one of its year.
  let year := if date.month ≤ 2 then date.year - 1 else date.year
  let month : Int := if date.month ≤ 2 then date.month + 9 else date.month - 3
  365 * year + year / 4 - year / 100 + year / 400 + daysBefore month + (date.day - 1) - 719468

/-- The date a number of days after the first of January 1970. -/
def ofDayNumber (number : Int) : Date :=
  -- Years are counted from March, so that a leap day is the last day of its year.
  let shifted := number + 719468
  let era := shifted / 146097
  let dayOfEra := shifted % 146097
  let yearOfEra := (dayOfEra - dayOfEra / 1460 + dayOfEra / 36524 - dayOfEra / 146096) / 365
  let dayOfYear := dayOfEra - (365 * yearOfEra + yearOfEra / 4 - yearOfEra / 100)
  let monthFromMarch := (5 * dayOfYear + 2) / 153
  let day := dayOfYear - daysBefore monthFromMarch + 1
  let month := if monthFromMarch < 10 then monthFromMarch + 3 else monthFromMarch - 9
  let year := yearOfEra + 400 * era + (if month ≤ 2 then 1 else 0)
  ⟨year, month.toNat, day.toNat⟩

end Date

end RowFilter
