import RowFilter.Store.DriverFailure

/-! What the database objects to in a statement. -/

namespace RowFilter.Engine

/-- A reason for which a statement fails. -/
inductive Fault where
  | noSuchTable (table : String)
  | noSuchColumn (column : String)
  /-- An inserted column that the table lacks. -/
  | noColumnNamed (table column : String)
  | insertGenerated (column : String)
  | updateGenerated (column : String)
  /-- The number of rows used in the condition on the rows. -/
  | misusedCount
  | tooManyVariables
  | tooDeep
  | missingValue (table column : String)
  | duplicateKey (table column : String)
  | duplicateRow (table : String)
  | duplicateValue (table column : String)
  | mismatch
  | full
deriving DecidableEq

namespace Fault

/-- The result code of a fault. -/
def code : Fault → Nat
  -- The rules that a row can violate have codes of two bytes.
  | .missingValue _ _ => 1299
  | .duplicateKey _ _ => 1555
  | .duplicateRow _ => 2579
  | .duplicateValue _ _ => 2067
  | .mismatch => 20
  | .full => 13
  | _ => 1

/-- The wording of a fault. -/
def message : Fault → String
  -- The texts are those of the engine, of which some tell more about a column than others.
  | .noSuchTable table => s!"no such table: {table}"
  | .noSuchColumn column => s!"no such column: {column}"
  | .noColumnNamed table column => s!"table {table} has no column named {column}"
  | .insertGenerated column => s!"cannot INSERT into generated column \"{column}\""
  | .updateGenerated column => s!"cannot UPDATE generated column \"{column}\""
  | .misusedCount => "misuse of aggregate: COUNT()"
  | .tooManyVariables => "too many SQL variables"
  | .tooDeep => "Expression tree is too large (maximum depth 1000)"
  | .missingValue table column => s!"NOT NULL constraint failed: {table}.{column}"
  | .duplicateKey table column | .duplicateValue table column =>
    s!"UNIQUE constraint failed: {table}.{column}"
  | .duplicateRow table => s!"UNIQUE constraint failed: {table}.rowid"
  | .mismatch => "datatype mismatch"
  | .full => "database or disk is full"

/-- A fault as the driver reports it. -/
def toFailure (fault : Fault) : DriverFailure :=
  -- The code is part of the text that a driver shows.
  .database (some (toString fault.code)) fault.message s!"(code: {fault.code}) {fault.message}"

end Fault

end RowFilter.Engine
