import RowFilter.Calendar.Moment
import RowFilter.Text.Basic

/-! Texts that read as a date or as a moment, and their canonical form. -/

namespace RowFilter.DateText

/-- Reads digits, at most so many if a limit is given, and at least one. -/
def readNumber (limit : Option Nat) (text : List Char) : Option (Nat × List Char) :=
  -- The limit cuts the text before the digits are counted, so that more digits stay unread.
  let digits :=
    match limit with
    | some width => (text.take width).takeWhile Char.isDigit
    | none => text.takeWhile Char.isDigit
  if digits.isEmpty then none
  else some (digits.foldl (fun value c => value * 10 + (c.toNat - '0'.toNat)) 0,
    text.drop digits.length)

/-- Reads exactly so many digits. -/
def readFixed (width : Nat) (text : List Char) : Option (Nat × List Char) :=
  -- Fewer digits than asked for are an error here, and not a shorter number.
  if ((text.take width).takeWhile Char.isDigit).length = width then readNumber (some width) text
  else none

/-- Reads the digits of a fraction as nanoseconds; digits after the ninth do not count. -/
def readFraction (text : List Char) : Option (Nat × List Char) := do
  let (value, rest) ← readNumber (some 9) text
  let taken := text.length - rest.length
  return (value * Nat.pow 10 (9 - taken), rest.dropWhile Char.isDigit)

/-- A part of a format. -/
inductive Part where
  | year
  | month
  | day
  | hour
  | minute
  | second
  /-- A point with digits, or nothing. -/
  | fraction
  | literal (c : Char)
  /-- Any number of blanks. -/
  | space
deriving DecidableEq

/-- A year has up to four digits, or a sign and any number of digits. -/
def readYear (text : List Char) : Option (Int × List Char) :=
  -- Only a sign makes room for more digits than four.
  match text with
  | '-' :: rest => (readNumber none rest).map fun (value, rest) => (-(value : Int), rest)
  | '+' :: rest => (readNumber none rest).map fun (value, rest) => ((value : Int), rest)
  | _ => (readNumber (some 4) text).map fun (value, rest) => ((value : Int), rest)

/-- Reads a number of one or two digits within a range, after blanks. -/
def readPart (low high : Nat) (text : List Char) : Option (Nat × List Char) := do
  let (value, rest) ← readNumber (some 2) (text.dropWhile Text.isBlank)
  if low ≤ value ∧ value ≤ high then return (value, rest) else none

/-- Reads one part of a format into a moment. -/
def Part.read (moment : Moment) (text : List Char) : Part → Option (Moment × List Char)
  -- Numbers may have blanks in front, and each has the bounds of its own part alone.
  | .year => do
    let (value, rest) ← readYear (text.dropWhile Text.isBlank)
    return ({ moment with date.year := value }, rest)
  | .month => do
    let (value, rest) ← readPart 1 12 text
    return ({ moment with date.month := value }, rest)
  | .day => do
    let (value, rest) ← readPart 1 31 text
    return ({ moment with date.day := value }, rest)
  | .hour => do
    let (value, rest) ← readPart 0 23 text
    return ({ moment with hour := value }, rest)
  | .minute => do
    let (value, rest) ← readPart 0 59 text
    return ({ moment with minute := value }, rest)
  | .second => do
    let (value, rest) ← readPart 0 60 text
    return ({ moment with second := value }, rest)
  | .fraction =>
    match text with
    | '.' :: rest => do
      let (value, rest) ← readFraction rest
      return ({ moment with nanosecond := value }, rest)
    | rest => some (moment, rest)
  | .literal c =>
    match text with
    | first :: rest => if first = c then some (moment, rest) else none
    | [] => none
  | .space => some (moment, text.dropWhile Text.isBlank)

/-- A format is a run of parts. -/
abbrev Format := List Part

/-- Reads a whole text by a format; the date has to exist. -/
def Format.readFrom (moment : Moment) (text : List Char) : Format → Option Moment
  -- The parts are checked one by one, and only the whole tells whether there is such a day.
  | [] => if text.isEmpty ∧ moment.date.isValid then some moment else none
  | part :: rest => do
    let (moment, text) ← part.read moment text
    Format.readFrom moment text rest

/-- The moment before anything is read. -/
def blankMoment : Moment := ⟨⟨0, 0, 0⟩, 0, 0, 0, 0⟩

/-- Reads a whole text by a format. -/
def Format.read? (format : Format) (text : List Char) : Option Moment :=
  -- What the format does not mention stays as it is at the start of the first day.
  Format.readFrom blankMoment text format

/-- Year, month and day with hyphens between them. -/
def dateFormat : Format := [.year, .literal '-', .month, .literal '-', .day]

/-- Hour and minute. -/
def clockFormat : Format := [.hour, .literal ':', .minute]

/-- The formats of a date with a time: a blank or a `T`, seconds or none, and a fraction or none. -/
def momentFormats : List Format :=
  -- The longer formats come first, since a format has to read the whole text.
  [.space, .literal 'T'].flatMap fun (separator : Part) =>
    [dateFormat ++ separator :: clockFormat ++ [.literal ':', .second, .fraction],
      dateFormat ++ separator :: clockFormat ++ [.literal ':', .second],
      dateFormat ++ separator :: clockFormat]

/-- Reads an offset from universal time in minutes, which ends its text. -/
def readOffset (text : List Char) : Option Int :=
  -- Universal time has a letter of its own, and any other offset a sign.
  match text with
  | ['Z'] | ['z'] => some 0
  | sign :: rest => do
    let negative ←
      -- The minus sign of typography counts as a sign.
      if sign = '+' then some false
      else if sign = '-' ∨ sign = '\u2212' then some true
      else none
    let (hours, rest) ← readFixed 2 rest
    match rest with
    | ':' :: rest => do
      let (minutes, rest) ← readFixed 2 rest
      if rest.isEmpty ∧ hours ≤ 23 ∧ minutes ≤ 59 then
        let total : Int := hours * 60 + minutes
        return if negative then -total else total
      else none
    | _ => none
  | [] => none

/-- Reads one given character. -/
def readChar (expected : Char) : List Char → Option (List Char)
  | c :: rest => if c = expected then some rest else none
  | [] => none

/-- Reads the strict form of a moment with its offset, as a moment in universal time. -/
def readOffsetMoment (text : List Char) : Option Moment := do
  -- All numbers have a fixed width here, and no blanks are passed over.
  let (year, rest) ← readFixed 4 text
  let rest ← readChar '-' rest
  let (month, rest) ← readFixed 2 rest
  let rest ← readChar '-' rest
  let (day, rest) ← readFixed 2 rest
  let rest ←
    match rest with
    | c :: rest => if c = 'T' ∨ c = 't' ∨ c = ' ' then some rest else none
    | [] => none
  let (hour, rest) ← readFixed 2 rest
  let rest ← readChar ':' rest
  let (minute, rest) ← readFixed 2 rest
  let rest ← readChar ':' rest
  let (second, rest) ← readFixed 2 rest
  let (nanosecond, rest) ←
    match rest with
    | '.' :: rest => readFraction rest
    | rest => some (0, rest)
  let offset ← readOffset rest
  let moment : Moment := ⟨⟨year, month, day⟩, hour, minute, second, nanosecond⟩
  if moment.date.isValid ∧ hour ≤ 23 ∧ minute ≤ 59 ∧ second ≤ 60 then
    return moment.earlier offset
  else none

/-- A text shorter than this many bytes is no date. -/
def shortestDate : Nat := 10

/-- The canonical form of characters without blanks around them. -/
def canonicalChars? (text : List Char) : Option (List Char) :=
  -- The length is counted in bytes, and a text of a date alone has ten of them at least.
  if Text.byteLength text < shortestDate then none
  else
    -- The first way of reading that succeeds decides: a date, a moment with offset, one without.
    match dateFormat.read? text with
    | some moment => some moment.date.chars
    | none =>
      match readOffsetMoment text with
      | some moment => some moment.chars
      | none => (momentFormats.findSome? (·.read? text)).map Moment.chars

/-- The canonical form of a text that reads as a date or as a moment, in universal time. -/
def canonical? (text : String) : Option String :=
  -- Blanks are dropped before the length is looked at.
  (canonicalChars? (Text.trim text.toList)).map String.ofList

/-- Whether a text reads as a date or as a moment. -/
def looksLikeDate (text : String) : Bool := (canonical? text).isSome

end RowFilter.DateText
