/-! The fewest decimal digits that read back as a given float. -/

namespace RowFilter.Decimal

/-- Which of two equally near neighbours is chosen. -/
inductive Tie where
  | even
  | up
deriving DecidableEq

/-- A finite float as a whole number times a power of two. -/
structure Binary where
  negative : Bool
  mantissa : Nat
  exponent : Int
  /-- Whether the next float below is only half as far away as the next one above. -/
  nearBelow : Bool
deriving DecidableEq

/-- A float by its kind. -/
inductive FloatClass where
  | nan
  | infinite (negative : Bool)
  | finite (parts : Binary)
deriving DecidableEq

/-- Takes a float apart by its 64 bits. -/
def FloatClass.ofBits (bits : Nat) : FloatClass :=
  -- One bit of sign, eleven of exponent, and 52 of fraction.
  let negative : Bool := bits / 0x8000000000000000 % 2 = 1
  let biased : Nat := bits / 0x10000000000000 % 0x800
  let fraction : Nat := bits % 0x10000000000000
  if biased = 2047 then (if fraction = 0 then .infinite negative else .nan)
  -- Without exponent bits there is no hidden bit either.
  else if biased = 0 then .finite ⟨negative, fraction, -1074, false⟩
  else .finite ⟨negative, 0x10000000000000 + fraction, (biased : Int) - 1075, fraction = 0 && 1 < biased⟩

/-- The kind of a float. -/
def FloatClass.ofFloat (value : Float) : FloatClass := .ofBits value.toBits.toNat

/-- A decimal: its digits from the first that is not zero, and the exponent of that digit. -/
structure Digits where
  digits : List Nat
  exponent : Int
deriving DecidableEq

/-- The digits of a number, most significant first. -/
def digitsOf (number : Nat) : List Nat :=
  -- The digits are the characters of the decimal text, by their distance from zero.
  (Nat.toDigits 10 number).map fun c => c.toNat - '0'.toNat

/-- Drops the zeros at the end. -/
def dropTrailingZeros (digits : List Nat) : List Nat :=
  -- Only the end is touched, since zeros in front of a digit count.
  (digits.reverse.dropWhile (· = 0)).reverse

/-- A count of grid steps as a decimal. -/
def Digits.ofGrid (count : Nat) (step : Int) : Digits :=
  -- The exponent belongs to the first digit, and not to the last one.
  let digits := digitsOf count
  ⟨dropTrailingZeros digits, step + digits.length - 1⟩

/-- A positive fraction of two whole numbers. -/
structure Ratio where
  numerator : Nat
  denominator : Nat
deriving DecidableEq

/-- A whole number times a power of a base. -/
def Ratio.scaled (number base : Nat) (exponent : Int) : Ratio :=
  -- The sign of the exponent tells on which side of the fraction the power stands.
  if 0 ≤ exponent then ⟨number * Nat.pow base exponent.toNat, 1⟩
  else ⟨number, Nat.pow base (-exponent).toNat⟩

/-- Order of fractions by their cross products. -/
def Ratio.lt (a b : Ratio) : Bool := a.numerator * b.denominator < b.numerator * a.denominator

/-- Whether a decimal grid point rounds to the float, where the ends count for even mantissas. -/
def Binary.readsBack (parts : Binary) (count : Nat) (step : Int) : Bool :=
  -- The ends are half a step of the float away, and the lower one a quarter at a power of two.
  let point := Ratio.scaled count 10 step
  let low := Ratio.scaled (4 * parts.mantissa - (if parts.nearBelow then 1 else 2)) 2
    (parts.exponent - 2)
  let high := Ratio.scaled (4 * parts.mantissa + 2) 2 (parts.exponent - 2)
  if parts.mantissa % 2 = 0 then !point.lt low && !high.lt point
  else low.lt point && point.lt high

/-- The exact value of a float as a count of grid steps: the whole part and the rest. -/
def Binary.onGrid (parts : Binary) (step : Int) : Nat × Ratio :=
  -- Both are fractions, so that the count is one exact division.
  let value := Ratio.scaled parts.mantissa 2 parts.exponent
  let unit := Ratio.scaled 1 10 step
  let top := value.numerator * unit.denominator
  let bottom := value.denominator * unit.numerator
  (top / bottom, ⟨top % bottom, bottom⟩)

/-- The better of the two grid points around a float, if one of them reads back. -/
def Binary.pick (parts : Binary) (tie : Tie) (step : Int) : Option Digits :=
  -- The grid point below and the one above are the only ones that can read back.
  let (below, rest) := parts.onGrid step
  let above := below + 1
  let twice := 2 * rest.numerator
  let preferAbove :=
    -- An exact half has no nearer side, and the kind of tie decides.
    if twice = rest.denominator then (tie = .up || below % 2 = 1) else rest.denominator < twice
  match below ≠ 0 && parts.readsBack below step, parts.readsBack above step with
  | true, true => some (.ofGrid (if preferAbove then above else below) step)
  | true, false => some (.ofGrid below step)
  | false, true => some (.ofGrid above step)
  | false, false => none

/-- An exponent at least that of the first digit of a float, and at most one more. -/
def Binary.leadingExponent (parts : Binary) : Int :=
  -- Comparing with one tells whether the exponent is negative, and the digits then count it.
  let value := Ratio.scaled parts.mantissa 2 parts.exponent
  if value.denominator ≤ value.numerator then
    ((Nat.toDigits 10 (value.numerator / value.denominator)).length : Int) - 1
  else 1 - (Nat.toDigits 10 (value.denominator / value.numerator)).length

/-- Tries grids from coarse to fine. -/
def Binary.search (parts : Binary) (tie : Tie) (lead : Int) : Nat → Nat → Digits
  -- No float needs as many places as there are rounds.
  | 0, _ => ⟨[0], 0⟩
  | rounds + 1, places =>
    -- The first grid with a point that reads back has the fewest digits.
    match parts.pick tie (lead - places) with
    | some found => found
    | none => parts.search tie lead rounds (places + 1)

/-- The fewest digits that read back as a float; zero has the one digit zero. -/
def Binary.shortest (parts : Binary) (tie : Tie) : Digits :=
  -- Zero has no leading digit, from which a search could start.
  if parts.mantissa = 0 then ⟨[0], 0⟩
  else parts.search tie parts.leadingExponent 20 0

end RowFilter.Decimal
