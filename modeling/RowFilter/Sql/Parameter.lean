import RowFilter.Scalar

/-! Values that a statement binds. -/

namespace RowFilter

/-- A bound value. -/
inductive Parameter where
  | bool (value : Bool)
  | int (value : Int64)
  | float (value : Float)
  | text (value : String)
  | json (value : Json)
deriving DecidableEq

namespace Parameter

/-- Null binds nothing, a scalar binds itself, and arrays and objects bind as documents. -/
def ofJson? : Json → Option Parameter
  -- As in literals, a whole number beyond 64 signed bits is bound as a float.
  | .null => none
  | .bool value => some (.bool value)
  | .integer value =>
    match value.toInt64? with
    | some word => some (.int word)
    | none => some (.float value.toFloat)
  | .float value => some (.float value)
  | .string value => some (.text value)
  | .array items => some (.json (.array items))
  | .object members => some (.json (.object members))

/-- Whether a bound value is text. -/
def isText : Parameter → Bool
  -- Only text needs a cast to be taken for a point in time.
  | .text _ => true
  | _ => false

end Parameter

/-- What a literal binds; null binds nothing. -/
def Scalar.toParameter? : Scalar → Option Parameter
  -- A literal is no document.
  | .null => none
  | .bool value => some (.bool value)
  | .int value => some (.int value)
  | .float value => some (.float value)
  | .text value => some (.text value)

end RowFilter
