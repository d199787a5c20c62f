import RowFilter.Engine.Execution
import RowFilter.Text.Bytes

/-! Rows of a result as records of JSON values. -/

namespace RowFilter.Engine

/-- The value of a cell by its storage class; bytes are written in base 64. -/
def Cell.toJson (index : Nat) : Cell → Except DriverFailure Json
  -- Only bytes that are declared to be text can fail, and the fault tells the column by its index.
  | .null => .ok .null
  | .int value => .ok (.ofInt64 value)
  | .real value => .ok (Scalar.jsonOfFloat value)
  | .text value => .ok (.string value)
  | .blob bytes => .ok (.string (String.ofList (Base64.encode bytes)))
  | .garbled bytes =>
    match Utf8.decode bytes with
    | .ok value => .ok (.string value)
    | .error fault => .error (.columnDecode (toString index) fault.message)

/-- Adds the cells of a row to a record; a column that is given back twice appears once. -/
def recordFrom (index : Nat) (record : Members) :
    List (String × Cell) → Except DriverFailure Members
  -- A title that comes again replaces the value, but not the place, of the first one.
  | [] => .ok record
  | (title, cell) :: rest => do
    let value ← cell.toJson index
    recordFrom (index + 1) (record.insert title value) rest

namespace ResultSet

/-- The record of one row, or why it is none. -/
def record (result : ResultSet) (row : List Cell) : Except DriverFailure Members :=
  -- Titles and cells have the same number, so that no cell is lost.
  recordFrom 0 [] (result.titles.zip row)

/-- The records of all rows; the first row that is none makes the result fail. -/
def records (result : ResultSet) : Except DriverFailure (List Members) :=
  -- There is one failure for the whole result, with no records beside it.
  result.rows.mapM result.record

end ResultSet

namespace Database

/-- Runs a statement and collects its rows. -/
def fetch (database : Database) (statement : Statement) :
    Except DriverFailure (List Members) × Database :=
  -- The rows are decoded after the statement has run, so that its changes stay if that fails.
  match database.execute statement with
  | (.ok result, changed) => (result.records, changed)
  | (.error fault, changed) => (.error fault.toFailure, changed)

/-- Runs a statement and gives its rows one by one. -/
def cursor (database : Database) (statement : Statement) :
    List (Except DriverFailure Members) × Database :=
  -- Here a row that cannot be decoded stands among the others.
  match database.execute statement with
  | (.ok result, changed) => (result.rows.map result.record, changed)
  | (.error fault, changed) => ([.error fault.toFailure], changed)

end Database

end RowFilter.Engine
