import RowFilter.Json.Fault
import RowFilter.Json.Draft

/-! Numbers in JSON text: whole numbers of 64 bits, and floats read from a 64-bit significand. -/

namespace RowFilter.Numeral

/-- The value of a decimal digit. -/
def digit (c : Char) : Nat := c.toNat - '0'.toNat

/-- Whether the next character is a digit. -/
def startsWithDigit : List Char → Bool
  -- The end of the text is no digit.
  | c :: _ => c.isDigit
  | [] => false

/-- Takes digits into a significand for as long as it fits 64 bits, and counts them. -/
def takeDigits (significand count : Nat) : List Char → Nat × Nat × List Char
  -- The digit that would no longer fit is left in the text.
  | [] => (significand, count, [])
  | c :: rest =>
    let next := significand * 10 + digit c
    if c.isDigit && next < 0x10000000000000000 then takeDigits next (count + 1) rest
    else (significand, count, c :: rest)

/-- Passes over digits and counts them. -/
def skipDigits (count : Nat) : List Char → Nat × List Char
  -- The digits themselves are not kept.
  | [] => (count, [])
  | c :: rest => if c.isDigit then skipDigits (count + 1) rest else (count, c :: rest)

/-- The digits of an exponent: its value, or none once it leaves 31 bits. -/
def takeExponent (value : Nat) : List Char → Option Nat × List Char
  -- Once the value is too large, the digits behind are not looked at.
  | [] => (some value, [])
  | c :: rest =>
    if c.isDigit then
      let next := value * 10 + digit c
      if next < 0x80000000 then takeExponent next rest else (none, rest)
    else (some value, c :: rest)

/-- A power of ten as a float. -/
def powerOfTen (exponent : Nat) : Float := Float.ofScientific 1 false exponent

/-- Divides by a power of ten in steps of at most 10^308, and stops at zero. -/
def scaleDown (value : Float) (exponent : Nat) : Float :=
  -- Each step divides by a power that a float can hold.
  if exponent ≤ 308 then value / powerOfTen exponent
  else if value == 0.0 then value
  else scaleDown (value / powerOfTen 308) (exponent - 308)
termination_by exponent

/-- Scales a significand once, upward within 10^308, or downward; none is out of range. -/
def scale (significand : Nat) (exponent : Int) : Option Float :=
  -- The significand is rounded once here, and a second time by the power of ten.
  let value := significand.toUInt64.toFloat
  if exponent < 0 then some (scaleDown value exponent.natAbs)
  else if exponent.natAbs ≤ 308 then
    let scaled := value * powerOfTen exponent.natAbs
    if scaled.isInf then none else some scaled
  else if value == 0.0 then some value
  else none

/-- Puts the sign on a float. -/
def signed (positive : Bool) (value : Float) : Float := if positive then value else -value

/-- The float of a significand and an exponent. -/
def finish (positive : Bool) (significand : Nat) (exponent : Int) (rest : List Char) :
    Except Fault (Float × List Char) :=
  -- The place of the fault is behind the number.
  match scale significand exponent with
  | some value => .ok (signed positive value, rest)
  | none => .error (.before .numberOutOfRange rest)

/-- Reads the exponent that follows its letter. -/
def readExponent (positive : Bool) (significand : Nat) (start : Int) (afterLetter : List Char) :
    Except Fault (Float × List Char) :=
  -- The sign of the exponent may be missing.
  let (upward, digits) :=
    match afterLetter with
    | '+' :: rest => (true, rest)
    | '-' :: rest => (false, rest)
    | rest => (true, rest)
  match digits with
  | [] => .error (.before .endInValue [])
  | c :: rest =>
    if !c.isDigit then .error (.on .invalidNumber (c :: rest))
    else
      match takeExponent (digit c) rest with
      | (some value, rest) =>
        finish positive significand (if upward then start + value else start - value) rest
      -- A number too small is zero, and only one too large is out of range.
      | (none, rest) =>
        if significand ≠ 0 ∧ upward then .error (.before .numberOutOfRange rest)
        else .ok (signed positive 0.0, (skipDigits 0 rest).2)

/-- Reads what may follow the digits of a float: an exponent or nothing. -/
def readTail (positive : Bool) (significand : Nat) (exponent : Int) :
    List Char → Except Fault (Float × List Char)
  -- Both letters open an exponent.
  | 'e' :: rest => readExponent positive significand exponent rest
  | 'E' :: rest => readExponent positive significand exponent rest
  | rest => finish positive significand exponent rest

/-- Reads the fraction that follows its point; digits that do not fit are dropped. -/
def readFraction (positive : Bool) (significand : Nat) (exponent : Int)
    (afterPoint : List Char) : Except Fault (Float × List Char) :=
  -- A point needs a digit behind it.
  match afterPoint with
  | [] => .error (.before .endInValue [])
  | c :: rest =>
    if !c.isDigit then .error (.on .invalidNumber (c :: rest))
    else
      -- Digits that fit lower the exponent, and those that do not fit change nothing.
      let (significand, count, rest) := takeDigits significand 0 afterPoint
      readTail positive significand (exponent - count) (skipDigits 0 rest).2

/-- A whole number that fits 64 bits is exact, and any other one is a float. -/
def whole (positive : Bool) (significand : Nat) : Draft :=
  -- There is no negative zero among whole numbers.
  if positive = false ∧ significand = 0 then .float (-0.0)
  else
    match WideInt.ofInt? (if positive then significand else -significand) with
    | some value => .integer value
    | none => .float (signed positive significand.toUInt64.toFloat)

/-- Turns the float of a numeral into a draft. -/
def floatDraft (reading : Except Fault (Float × List Char)) : Except Fault (Draft × List Char) :=
  -- Whatever has a point or an exponent is a float, even if it is whole.
  reading.map fun (value, rest) => (.float value, rest)

/-- Reads a number whose sign has been read. -/
def readUnsigned (positive : Bool) (text : List Char) : Except Fault (Draft × List Char) :=
  -- A sign needs a digit behind it.
  match text with
  | [] => .error (.before .endInValue [])
  | c :: rest =>
    if !c.isDigit then .error (.on .invalidNumber (c :: rest))
    -- A leading zero stands alone in front of the point.
    else if c = '0' ∧ startsWithDigit rest then .error (.on .invalidNumber rest)
    else
      let (significand, _, rest) := takeDigits 0 0 text
      let (dropped, rest) := skipDigits 0 rest
      match rest with
      | '.' :: rest => floatDraft (readFraction positive significand dropped rest)
      | 'e' :: rest => floatDraft (readExponent positive significand dropped rest)
      | 'E' :: rest => floatDraft (readExponent positive significand dropped rest)
      -- Digits that did not fit make the number a float, as if they were an exponent.
      | rest =>
        if dropped = 0 then .ok (whole positive significand, rest)
        else floatDraft (finish positive significand dropped rest)

/-- Reads a number. -/
def read : List Char → Except Fault (Draft × List Char)
  -- There is no plus sign in front of a number.
  | '-' :: rest => readUnsigned false rest
  | text => readUnsigned true text

end RowFilter.Numeral
