import RowFilter.Decimal.Shortest

/-! How a decimal is laid out: where positional digits end, and what an exponent looks like. -/

namespace RowFilter.Decimal

/-- The decisions that fix the text of a float. -/
structure Layout where
  /-- Exponents of the first digit that are written positionally; none means all of them. -/
  positional : Option (Int × Int)
  /-- Whether a whole number ends in a point and a zero. -/
  pointZero : Bool
  /-- Which of two equally short and equally near decimals is chosen. -/
  tie : Tie
  nan : String
  infinity : String

/-- The character of a decimal digit. -/
def digitChar (digit : Nat) : Char := Char.ofNat ('0'.toNat + digit)

/-- The text of some digits. -/
def digitText (digits : List Nat) : String := String.ofList (digits.map digitChar)

/-- Digits without an exponent, with zeros filled in up to the point. -/
def positionalText (decimal : Digits) (pointZero : Bool) : String :=
  -- The exponent is that of the first digit, and tells on which side of the point digits stand.
  let count : Int := decimal.digits.length
  if decimal.exponent < 0 then
    let zeros := List.replicate (-decimal.exponent - 1).toNat 0
    s!"0.{digitText (zeros ++ decimal.digits)}"
  else if count ≤ decimal.exponent + 1 then
    let zeros := List.replicate (decimal.exponent + 1 - count).toNat 0
    digitText (decimal.digits ++ zeros) ++ (if pointZero then ".0" else "")
  else
    let head := (decimal.exponent + 1).toNat
    s!"{digitText (decimal.digits.take head)}.{digitText (decimal.digits.drop head)}"

/-- Digits with one place before the point, and an exponent that always shows its sign. -/
def scientificText (decimal : Digits) : String :=
  -- A single digit has no point behind it.
  let sign := if decimal.exponent < 0 then "-" else "+"
  let exponent := toString decimal.exponent.natAbs
  match decimal.digits with
  | first :: next :: rest => s!"{digitText [first]}.{digitText (next :: rest)}e{sign}{exponent}"
  | digits => s!"{digitText digits}e{sign}{exponent}"

/-- The text of a decimal without its sign. -/
def Layout.body (layout : Layout) (decimal : Digits) : String :=
  -- A layout without bounds never writes an exponent.
  match layout.positional with
  | none => positionalText decimal layout.pointZero
  | some (first, last) =>
    if first ≤ decimal.exponent ∧ decimal.exponent ≤ last then
      positionalText decimal layout.pointZero
    else scientificText decimal

/-- The text of a float: the fewest digits that read back, laid out, behind its sign. -/
def Layout.text (layout : Layout) (value : Float) : String :=
  -- The sign is that of the float, so that a negative zero keeps it.
  match FloatClass.ofFloat value with
  | .nan => layout.nan
  | .infinite negative => (if negative then "-" else "") ++ layout.infinity
  | .finite parts =>
    (if parts.negative then "-" else "") ++ layout.body (parts.shortest layout.tie)

/-- Every digit is written out, and a whole number has no point. -/
def plain : Layout where
  -- This is how values are shown in messages.
  positional := none
  pointZero := false
  tie := .up
  nan := "NaN"
  infinity := "inf"

/-- JSON numbers: exponents from -5 to 15 are positional, and what is not finite becomes null. -/
def json : Layout where
  -- Outside of these bounds an exponent is shorter.
  positional := some (-5, 15)
  pointZero := true
  tie := .even
  nan := "null"
  infinity := "null"

end RowFilter.Decimal
