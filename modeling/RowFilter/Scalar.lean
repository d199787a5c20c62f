import RowFilter.Decimal.Layout
import RowFilter.Json.Basic

/-! Literal values: what a filter may compare a column with. -/

namespace RowFilter

/-- A literal value. -/
inductive Scalar where
  | null
  | bool (value : Bool)
  | int (value : Int64)
  | float (value : Float)
  | text (value : String)
deriving DecidableEq

namespace Scalar

/-- Arrays and objects are no literals, and a whole number beyond 64 signed bits is a float. -/
def ofJson? : Json → Option Scalar
  -- The cases of numbers are the only ones in which the literal may differ from the document.
  | .null => some .null
  | .bool value => some (.bool value)
  | .integer value =>
    match value.toInt64? with
    | some word => some (.int word)
    | none => some (.float value.toFloat)
  | .float value => some (.float value)
  | .string value => some (.text value)
  | .array _ => none
  | .object _ => none

/-- The document of a float, which is null unless the float is finite. -/
def jsonOfFloat (value : Float) : Json := if value.isFinite then .float value else .null

/-- The JSON spelling of a literal. -/
def toJson : Scalar → Json
  -- A float that is not finite has no spelling, and becomes null.
  | .null => .null
  | .bool value => .bool value
  | .int value => .ofInt64 value
  | .float value => jsonOfFloat value
  | .text value => .string value

/-- Whether a literal counts as present: null, false, zero, not-a-number and empty text do not. -/
def isTruthy : Scalar → Bool
  -- These are the rules for an empty search: what counts as absent is not looked for.
  | .null => false
  | .bool value => value
  | .int value => value != 0
  | .float value => value != 0.0 && !value.isNaN
  | .text value => value != ""

/-- Whether a literal is a number. -/
def isNumber : Scalar → Bool
  | .int _ | .float _ => true
  | _ => false

/-- The text that a pattern looks for; numbers are written out in full. -/
def patternText? : Scalar → Option String
  -- A number is looked for by its decimal text, which never has an exponent.
  | .text value => some value
  | .int value => some (toString value.toInt)
  | .float value => some (Decimal.plain.text value)
  | .bool _ | .null => none

end Scalar

end RowFilter
