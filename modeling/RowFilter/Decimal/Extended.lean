import RowFilter.Decimal.Shortest

/-! Numbers of 64 significant bits, which stand between decimals and floats. -/

namespace RowFilter.Decimal

/-- A whole number of at most 64 bits times a power of two. -/
structure Extended where
  mantissa : Nat
  exponent : Int
deriving DecidableEq

/-- A number without its last bits, rounded to the nearest; a half goes to the even neighbour. -/
def dropBits (number count : Nat) : Nat :=
  -- Twice the rest is compared with the unit, so that no half is lost in a division.
  let kept := number / Nat.pow 2 count
  let rest := 2 * (number % Nat.pow 2 count)
  if Nat.pow 2 count < rest ∨ (rest = Nat.pow 2 count ∧ kept % 2 = 1) then kept + 1 else kept

/-- The number of bits of a number. -/
def bitCount (number : Nat) : Nat := if number = 0 then 0 else number.log2 + 1

namespace Extended

/-- The number of significant bits. -/
def precision : Nat := 64

/-- The nearest number of 64 significant bits. -/
def nearest (mantissa : Nat) (exponent : Int) : Extended :=
  -- Short numbers are kept as they are, since only an excess of bits is dropped.
  let excess := bitCount mantissa - precision
  ⟨dropBits mantissa excess, exponent + excess⟩

/-- The product of two numbers, rounded once. -/
def times (left right : Extended) : Extended :=
  -- The exact product is formed first.
  nearest (left.mantissa * right.mantissa) (left.exponent + right.exponent)

/-- The number nearest to a power of ten. -/
def tenTo (exponent : Int) : Extended :=
  let power := Nat.pow 10 exponent.natAbs
  if 0 ≤ exponent then nearest power 0
  else
    -- A last bit that stands for the rest of the division keeps the rounding exact.
    let places := bitCount power + precision + 1
    let rest := if Nat.pow 2 places % power = 0 then 0 else 1
    nearest (2 * (Nat.pow 2 places / power) + rest) (-places - 1)

/-- A number as an exact fraction. -/
def toRatio (value : Extended) : Ratio := .scaled value.mantissa 2 value.exponent

/-- Order by value. -/
def lt (left right : Extended) : Bool := left.toRatio.lt right.toRatio

/-- A number without its fraction. -/
def wholePart (value : Extended) : Nat :=
  -- The ratio of the number is exact, and division rounds downwards.
  let exact := value.toRatio
  exact.numerator / exact.denominator

/-- Multiplies by a number again and again. -/
def timesRepeated (factor : Extended) (count : Nat) (value : Extended) : Extended :=
  -- Each step rounds, so that the order of the factors matters.
  Nat.repeat (·.times factor) count value

/-- Multiplies by a power of ten: first by hundredth powers, then by tenth ones, then by ten. -/
def scaleByTen (value : Extended) (exponent : Int) : Extended :=
  -- The digits of the exponent in base ten tell how often each factor is applied.
  let size := exponent.natAbs
  let sign : Int := if exponent < 0 then -1 else 1
  let hundreds := timesRepeated (tenTo (sign * 100)) (size / 100) value
  let tens := timesRepeated (tenTo (sign * 10)) (size % 100 / 10) hundreds
  timesRepeated (tenTo sign) (size % 10) tens

/-- The greatest finite float. -/
def greatest : Extended := ⟨0x20000000000000 - 1, 971⟩

/-- The exponent of the last bit of the smallest floats. -/
def leastExponent : Int := -1074

/-- The nearest float; what is greater than every finite float is infinite. -/
def toFloat (value : Extended) : Float :=
  -- The unit of the result is that of 53 bits, but never below the least exponent of floats.
  if greatest.lt value then 1.0 / 0.0
  else
    let unit := max (value.exponent + bitCount value.mantissa - 53) leastExponent
    let mantissa :=
      if unit ≤ value.exponent then value.mantissa * Nat.pow 2 (value.exponent - unit).toNat
      else dropBits value.mantissa (unit - value.exponent).toNat
    if mantissa = 0 then 0.0
    -- A mantissa with its hidden bit carries into the exponent by itself.
    else Float.ofBits (.ofNat (mantissa + (unit - leastExponent).toNat * 0x10000000000000))

/-- Multiplies by a factor while a number is out of bounds, and counts the powers of ten. -/
def approach (outside : Extended → Bool) (factor : Int) :
    Nat → Extended × Int → Extended × Int
  -- The rounds bound the loop, which no float uses up.
  | 0, state => state
  | rounds + 1, (value, exponent) =>
    if outside value then
      approach outside factor rounds (value.times (tenTo factor), exponent - factor)
    else (value, exponent)

/-- A positive number as a whole number of 18 or 19 digits times a power of ten. -/
def toDecimal (value : Extended) : Nat × Int :=
  -- The limits are those at which the scaling ends: between the powers 18 and 19 of ten.
  let above (limit : Int) (number : Extended) : Bool := !number.lt (tenTo limit)
  let below (limit : Int) (number : Extended) : Bool := number.lt (tenTo limit)
  let (scaled, exponent) :=
    [(above 119, -100), (above 29, -10), (above 19, -1), (below (-97), 100), (below 7, 10),
      (below 17, 1)].foldl (fun state (outside, factor) => approach outside factor 12 state)
        (value, (0 : Int))
  (scaled.wholePart, exponent)

end Extended

/-- A float at a number of significant digits, at most 17, where a half goes away from zero. -/
def Binary.rounded (parts : Binary) (count : Nat) : Digits :=
  -- The number has 18 digits or 19, so that the digit to round by is always there.
  if parts.mantissa = 0 then ⟨[0], 0⟩
  else
    let (number, exponent) := Extended.toDecimal ⟨parts.mantissa, parts.exponent⟩
    let excess := (Nat.toDigits 10 number).length - count
    let next := number / Nat.pow 10 (excess - 1) % 10
    .ofGrid (number / Nat.pow 10 excess + (if 5 ≤ next then 1 else 0)) (exponent + excess)

end RowFilter.Decimal
