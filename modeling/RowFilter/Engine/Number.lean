import RowFilter.Decimal.Exact
import RowFilter.Decimal.Extended
import RowFilter.Decimal.Layout

/-! Numbers as the database reads them from text and writes them to text. -/

namespace RowFilter.Engine

/-- The characters that the database takes for blanks. -/
def isGap (c : Char) : Bool := c = ' ' || ('\t' ≤ c && c ≤ '\r')

/-- The parts of a number's spelling. -/
structure Spelling where
  negative : Bool
  whole : List Char
  /-- The digits after a point, if there is a point. -/
  fraction : Option (List Char)
  exponent : Option Int
deriving DecidableEq

namespace Spelling

/-- The value of some digits. -/
def value (digits : List Char) : Nat :=
  -- The digits are those of base ten, most significant first.
  digits.foldl (fun number c => number * 10 + (c.toNat - '0'.toNat)) 0

/-- Takes a sign off a text. -/
def takeSign : List Char → Bool × List Char
  -- A text may have no sign, and then nothing is taken.
  | '-' :: rest => (true, rest)
  | '+' :: rest => (false, rest)
  | text => (false, text)

/-- Takes the digits after a point off a text. -/
def takeFraction : List Char → Option (List Char) × List Char
  -- A point may have no digits behind it.
  | '.' :: rest => (some (rest.takeWhile Char.isDigit), rest.dropWhile Char.isDigit)
  | text => (none, text)

/-- Takes an exponent off a text; a letter without digits after it spells no number. -/
def takeExponent? (text : List Char) : Option (Option Int × List Char) :=
  -- An end of the text is no fault, and a letter that is no exponent is left for the caller.
  match text with
  | [] => some (none, [])
  | c :: rest =>
    if c = 'e' ∨ c = 'E' then
      let (negative, rest) := takeSign rest
      let digits := rest.takeWhile Char.isDigit
      if digits.isEmpty then none
      else
        -- A greater exponent makes no difference to any float.
        let size : Int := (min (value digits) 10000 : Nat)
        some (some (if negative then -size else size), rest.dropWhile Char.isDigit)
    else some (none, text)

/-- Reads a number with blanks around it. -/
def read? (text : List Char) : Option Spelling := do
  let (negative, text) := takeSign (text.dropWhile isGap)
  let whole := text.takeWhile Char.isDigit
  let (fraction, text) := takeFraction (text.dropWhile Char.isDigit)
  if whole.isEmpty ∧ (fraction.getD []).isEmpty then none
  else
    let (exponent, text) ← takeExponent? text
    if text.all isGap then some ⟨negative, whole, fraction, exponent⟩ else none

/-- The whole number that is spelled without point and exponent, if it fits a signed word. -/
def toInt64? (spelling : Spelling) : Option Int64 :=
  -- A point or an exponent makes a float of a number that is whole by its value.
  if spelling.fraction.isNone ∧ spelling.exponent.isNone then
    let size : Int := value spelling.whole
    let number := if spelling.negative then -size else size
    if -0x8000000000000000 ≤ number ∧ number < 0x8000000000000000 then
      some (Int64.ofInt number)
    else none
  else none

/-- The greatest number to which one more digit may be added within 64 bits. -/
def digitRoom : Nat := (0x10000000000000000 - 10) / 10

/-- Adds digits to a number while there is room, and gives back those that are left. -/
def takeDigits (number : Nat) : List Char → Nat × List Char
  -- Digits beyond the room only count for the exponent.
  | [] => (number, [])
  | c :: rest =>
    if number < digitRoom then takeDigits (number * 10 + (c.toNat - '0'.toNat)) rest
    else (number, c :: rest)

/-- Moves tens between a number and its exponent, which comes nearer to zero. -/
def settle : Nat → Nat → Int → Nat × Int
  -- The rounds bound the loop, which ends when the exponent is zero or nothing can be moved.
  | 0, number, exponent => (number, exponent)
  | rounds + 1, number, exponent =>
    if 0 < exponent ∧ number < (0x10000000000000000 - 1) / 10 then
      settle rounds (number * 10) (exponent - 1)
    else if exponent < 0 ∧ number % 10 = 0 then settle rounds (number / 10) (exponent + 1)
    else (number, exponent)

/-- The size of the float that is spelled, by the digits that 64 bits hold. -/
def size (spelling : Spelling) : Float :=
  -- Digits of the whole that find no room raise the exponent, and those of the fraction lower it.
  let (whole, left) := takeDigits 0 spelling.whole
  let fraction := spelling.fraction.getD []
  let (number, unused) := takeDigits whole fraction
  let places : Int := (left.length : Int) - (fraction.length - unused.length : Nat)
  if number = 0 then 0.0
  else
    let (number, exponent) := settle 20 number (spelling.exponent.getD 0 + places)
    (Decimal.Extended.scaleByTen ⟨number, 0⟩ exponent).toFloat

/-- The float that is spelled. -/
def toFloat (spelling : Spelling) : Float :=
  -- The sign is put on at the end, so that both signs round alike.
  if spelling.negative then -spelling.size else spelling.size

end Spelling

/-- The signed word that a float is; the greatest and the least word are left out. -/
def wholeWord? (value : Float) : Option Int64 :=
  -- The words at both ends are kept as floats, since they are where conversions saturate.
  match Decimal.wholeValue? value with
  | some number =>
    if -0x8000000000000000 < number ∧ number < 0x8000000000000000 - 1 then
      some (Int64.ofInt number)
    else none
  | none => none

/-- A scientific decimal with at least one digit after the point and two in the exponent. -/
def scientificText (decimal : Decimal.Digits) : String :=
  -- The exponent is padded to two digits, and a lonely digit gets a zero behind the point.
  let sign := if decimal.exponent < 0 then "-" else "+"
  let size := decimal.exponent.natAbs
  let exponent := if size < 10 then s!"0{size}" else toString size
  let head := Decimal.digitText (decimal.digits.take 1)
  let rest := decimal.digits.drop 1
  s!"{head}.{Decimal.digitText (if rest.isEmpty then [0] else rest)}e{sign}{exponent}"

/-- The text of a float: fifteen digits at most, and always a point. -/
def realText (value : Float) : String :=
  -- Exponents from -4 to 14 are written without one.
  match Decimal.FloatClass.ofFloat value with
  | .nan => "NaN"
  | .infinite negative => if negative then "-Inf" else "Inf"
  | .finite parts =>
    let decimal := parts.rounded 15
    let body :=
      if -4 ≤ decimal.exponent ∧ decimal.exponent ≤ 14 then Decimal.positionalText decimal true
      else scientificText decimal
    -- A negative zero has no sign in text.
    if parts.negative ∧ parts.mantissa ≠ 0 then "-" ++ body else body

end RowFilter.Engine
