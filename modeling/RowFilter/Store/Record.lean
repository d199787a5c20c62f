import RowFilter.Json.Decode
import RowFilter.Sql.Backend
import RowFilter.Store.Error
import RowFilter.Table

/-! Rows as records, the kinds that storage forgets, and rows as values of a caller's type. -/

namespace RowFilter

/-- A row: column names with values, in the order of the result. -/
abbrev Record := Members

namespace Record

/-- Gives a value back the kind that is declared for its column. -/
def restoreValue (kind : Option Kind) (value : Json) : Json :=
  -- Only what the backend had to store as something else is changed.
  match kind, value with
  | some .boolean, .integer number =>
    match number.toInt64? with
    | some word => .bool (word != 0)
    | none => .integer number
  | some .json, .string text =>
    -- A text that spells no document stays as it is.
    match Json.read text with
    | .ok document => document
    | .error _ => .string text
  | _, value => value

/-- Gives truth values and documents back their kinds, for which SQLite has no storage of its own. -/
def restore (backend : Backend) (table : Table) (record : Record) : Record :=
  -- The other backend has types of its own for both.
  match backend with
  | .sqlite =>
    record.map fun (column, value) => (column, restoreValue (table.kindOf? column) value)
  | .postgres => record

end Record

/-- A way to turn records into values of a type. -/
abbrev RowModel (α : Type) := Record → Except DecodeError α

namespace RowModel

/-- Records as they are. -/
def record : RowModel Record := .ok

/-- The value of a record; an error keeps the statement, if it is known. -/
def read {α : Type} (model : RowModel α) (query : Option String) (record : Record) :
    Except StoreError α :=
  -- The message of the model is both the reason and the cause.
  match model record with
  | .ok value => .ok value
  | .error error =>
    .error (.decode s!"row does not match the model: {error.message}" query
      (some (.text error.message)))

end RowModel

end RowFilter
