import RowFilter.Calendar.Moment
import RowFilter.Engine.Cell

/-! Cells read as points in time and written as a date with its time. -/

namespace RowFilter.Engine

/-- A time of day with the fraction of its second. -/
structure Clock where
  hour : Nat
  minute : Nat
  second : Nat
  fraction : Float

/-- A point in time as it is written: a date, a time of day, and minutes ahead of universal time. -/
structure Written where
  date : Option Date
  clock : Option Clock
  offset : Int

namespace TimeText

/-- Reads a number of exactly two digits within bounds. -/
def readPair (low high : Nat) : List Char → Option (Nat × List Char)
  -- Both characters have to be digits, since a shorter number is none here.
  | a :: b :: rest =>
    if a.isDigit && b.isDigit then
      let value := Spelling.value [a, b]
      if low ≤ value ∧ value ≤ high then some (value, rest) else none
    else none
  | _ => none

/-- Takes an expected character off a text. -/
def readMark (expected : Char) : List Char → Option (List Char)
  -- Times are written without blanks inside.
  | c :: rest => if c = expected then some rest else none
  | [] => none

/-- Reads hours and minutes with a colon between them. -/
def readHours (lastHour : Nat) (text : List Char) : Option (Nat × Nat × List Char) := do
  let (hour, text) ← readPair 0 lastHour text
  let (minute, text) ← readPair 0 59 (← readMark ':' text)
  return (hour, minute, text)

/-- The fraction that the digits after a point spell. -/
def fractionOf (digits : List Char) : Float :=
  -- The digits are summed up in floats, with the rounding that this has.
  let (value, scale) := digits.foldl (fun (value, scale) c =>
    (value * 10.0 + (c.toNat - '0'.toNat).toFloat, scale * 10.0)) ((0.0 : Float), (1.0 : Float))
  value / scale

/-- Reads the fraction of a second, if a point with digits follows. -/
def readFraction (text : List Char) : Float × List Char :=
  -- A point without digits behind it is not taken.
  match text with
  | '.' :: rest =>
    let digits := rest.takeWhile Char.isDigit
    if digits.isEmpty then (0.0, text) else (fractionOf digits, rest.dropWhile Char.isDigit)
  | _ => (0.0, text)

/-- Reads a time of day, where the seconds may be missing. -/
def readClock (text : List Char) : Option (Clock × List Char) := do
  let (hour, minute, text) ← readHours 24 text
  -- A second is only read behind a colon.
  match text with
  | ':' :: rest =>
    let (second, rest) ← readPair 0 59 rest
    let (fraction, rest) := readFraction rest
    return (⟨hour, minute, second, fraction⟩, rest)
  | _ => return (⟨hour, minute, 0, 0.0⟩, text)

/-- Reads the end of a point in time: nothing, a Z, or hours and minutes ahead or behind. -/
def readOffset (text : List Char) : Option Int := do
  -- What is behind the offset may only be blanks.
  match text.dropWhile isGap with
  | [] => some 0
  | c :: rest =>
    let (offset, rest) ←
      if c = 'Z' ∨ c = 'z' then some (0, rest)
      else if c = '+' ∨ c = '-' then do
        let (hours, minutes, rest) ← readHours 14 rest
        let size : Int := hours * 60 + minutes
        some (if c = '-' then -size else size, rest)
      else none
    if rest.all isGap then some offset else none

/-- Reads a time of day with its offset. -/
def readTime (date : Option Date) (text : List Char) : Option Written := do
  let (clock, rest) ← readClock text
  return ⟨date, some clock, ← readOffset rest⟩

/-- Reads a year of four digits. -/
def readYear (text : List Char) : Option (Nat × List Char) :=
  -- A year of more digits is no year, as the mark behind it is then missing.
  let digits := text.take 4
  if digits.length = 4 ∧ digits.all Char.isDigit then some (Spelling.value digits, text.drop 4)
  else none

/-- Reads a date, which blanks or the letter T divide from its time. -/
def readDate (text : List Char) : Option Written := do
  -- A sign in front belongs to the year.
  let (negative, text) :=
    match text with
    | '-' :: rest => (true, rest)
    | _ => (false, text)
  let (year, text) ← readYear text
  let (month, text) ← readPair 1 12 (← readMark '-' text)
  let (day, text) ← readPair 1 31 (← readMark '-' text)
  let date : Date := ⟨if negative then -(year : Int) else year, month, day⟩
  let text := text.dropWhile fun c => isGap c || c = 'T'
  match readTime date text with
  | some written => some written
  | none => if text.isEmpty then some ⟨some date, none, 0⟩ else none

/-- The milliseconds of a day. -/
def dayLength : Int := 86400000

/-- The milliseconds from the start of the Julian calendar to the first of January 1970. -/
def epoch : Int := 210866760000000

/-- The last millisecond of the year 9999. -/
def lastInstant : Int := 464269060799999

/-- The milliseconds of a clock, where a half goes up. -/
def Clock.milliseconds (clock : Clock) : Int :=
  -- Half a millisecond is added before the fraction is cut.
  let seconds := clock.second.toFloat + clock.fraction
  clock.hour * 3600000 + clock.minute * 60000 + (seconds * 1000.0 + 0.5).toUInt64.toNat

/-- The milliseconds from the start of the Julian calendar to a point in time. -/
def instant (written : Written) : Int :=
  -- A time without date is taken to be in the year 2000.
  let date := written.date.getD ⟨2000, 1, 1⟩
  let time := (written.clock.map Clock.milliseconds).getD 0
  date.dayNumber * dayLength + epoch + time - written.offset * 60000

/-- The date of an instant. -/
def dateOf (instant : Int) : Date :=
  -- Days begin at noon in this count, which is half a day apart from the calendar.
  Date.ofDayNumber ((instant + dayLength / 2) / dayLength - 2440588)

/-- Hour, minute and second of an instant. -/
def clockOf (instant : Int) : Nat × Nat × Nat :=
  -- The remainder is never negative, so that times before the start are times of day as well.
  let inDay := ((instant + dayLength / 2) % dayLength).toNat
  (inDay / 3600000, inDay / 60000 % 60, inDay % 60000 / 1000)

/-- A year in at least four places, of which a sign takes one. -/
def yearChars (year : Int) : List Char :=
  if year < 0 then '-' :: paddedDigits 3 year.natAbs else paddedDigits 4 year.natAbs

/-- A date with a time of day. -/
def chars (date : Date) (clock : Nat × Nat × Nat) : List Char :=
  -- The parts are divided by hyphens, a blank and colons.
  yearChars date.year ++ '-' :: (paddedDigits 2 date.month ++ '-' :: (paddedDigits 2 date.day
    ++ ' ' :: (paddedDigits 2 clock.1 ++ ':' :: (paddedDigits 2 clock.2.1
      ++ ':' :: paddedDigits 2 clock.2.2))))

/-- Writes a point in time; what is written without offset is kept where it names a day of every
month, and all else comes from the instant. -/
def ofWritten? (written : Written) : Option (List Char) :=
  let date := written.date.getD ⟨2000, 1, 1⟩
  let moment := instant written
  -- Instants outside of the calendar have no text.
  if date.year < -4713 ∨ moment < 0 ∨ lastInstant < moment then none
  else
    -- An offset moves the clock, so that only what has none can be kept as it is written.
    let kept := written.offset = 0
    let shownDate :=
      match written.date with
      | some date => if kept ∧ date.day ≤ 28 then date else dateOf moment
      | none => dateOf moment
    let shownClock :=
      match written.clock with
      | some clock => if kept then (clock.hour, clock.minute, clock.second) else clockOf moment
      | none => clockOf moment
    some (chars shownDate shownClock)

/-- Writes a Julian day number as a point in time. -/
def ofDayCount? (days : Float) : Option (List Char) :=
  -- The bound is the end of the year 9999.
  if 0.0 ≤ days && days < 5373484.5 then
    let moment : Int := (days * 86400000.0 + 0.5).toUInt64.toNat
    if moment ≤ lastInstant then some (chars (dateOf moment) (clockOf moment)) else none
  else none

/-- Writes a text as a point in time: a date, a time of day, or a day number. -/
def ofChars? (text : List Char) : Option (List Char) :=
  -- A zero character ends the text.
  let text := text.takeWhile fun c => c.toNat ≠ 0
  -- A text that is no date and no time may still be a number of days.
  match (readDate text).or (readTime none text) with
  | some written => ofWritten? written
  | none => (Spelling.read? text).bind fun spelling => ofDayCount? spelling.toFloat

/-- A cell as a point in time. -/
def ofCell? : Cell → Option (List Char)
  -- Numbers are days, and bytes are read like text.
  | .null => none
  | .int value => ofDayCount? value.toFloat
  | .real value => ofDayCount? value
  | cell => cell.chars?.bind ofChars?

end TimeText

end RowFilter.Engine
