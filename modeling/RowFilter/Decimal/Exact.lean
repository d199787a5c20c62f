import RowFilter.Decimal.Shortest

/-! Exact comparisons between floats and whole numbers. -/

namespace RowFilter.Decimal

namespace Binary

/-- Whether a finite float has no fraction. -/
def isWhole (parts : Binary) : Bool :=
  -- A float is whole if the power of two in its denominator divides its mantissa.
  0 ≤ parts.exponent || parts.mantissa % Nat.pow 2 (-parts.exponent).toNat = 0

/-- The whole part of the size of a finite float. -/
def wholePart (parts : Binary) : Nat :=
  -- A negative exponent is a denominator, by which the mantissa is divided downwards.
  if 0 ≤ parts.exponent then parts.mantissa * Nat.pow 2 parts.exponent.toNat
  else parts.mantissa / Nat.pow 2 (-parts.exponent).toNat

/-- The greatest whole number that is not greater than a finite float. -/
def floor (parts : Binary) : Int :=
  -- Below zero, cutting a fraction off goes up, so that one more has to be taken away.
  if parts.negative then
    if parts.isWhole then -(parts.wholePart : Int) else -(parts.wholePart : Int) - 1
  else parts.wholePart

end Binary

/-- The whole number that a float is, if it is one. -/
def wholeValue? (value : Float) : Option Int :=
  -- Only a finite float can be a whole number.
  match FloatClass.ofFloat value with
  | .finite parts => if parts.isWhole then some parts.floor else none
  | _ => none

/-- Whether a float is less than zero. -/
def isBelowZero (value : Float) : Bool :=
  -- A negative zero has a sign, but is not below zero.
  match FloatClass.ofFloat value with
  | .finite parts => parts.negative && parts.mantissa != 0
  | .infinite negative => negative
  | .nan => false

/-- How a whole number compares with a float, where what is no number counts as greatest. -/
def compareWhole (number : Int) (value : Float) : Ordering :=
  -- The comparison is exact: no whole number is turned into a float for it.
  match FloatClass.ofFloat value with
  | .nan => .lt
  | .infinite negative => if negative then .gt else .lt
  | .finite parts =>
    -- The floor decides, and a fraction above it makes the float the greater one.
    match compare number parts.floor with
    | .eq => if parts.isWhole then .eq else .lt
    | order => order

end RowFilter.Decimal
