import RowFilter.Request
import RowFilter.Schema.Table

/-! Payloads that are checked against the schema of their table before they are read. -/

namespace RowFilter

/-- Why a payload is rejected. -/
inductive ValidationError where
  | violations (found : List Violation)
  /-- The schema accepts the payload, but it cannot be read. -/
  | malformed (error : FilterError)
deriving DecidableEq

/-- The wording of a rejection. -/
def ValidationError.message : ValidationError → String
  -- The violations themselves are told apart from the message.
  | .violations found => s!"Filter validation failed with {found.length} violation(s)"
  | .malformed error => error.message

/-- Rejects a payload to which a schema objects. -/
def Schema.check (schema : Schema) (payload : Json) : Except ValidationError Unit :=
  -- No objection at all is what makes a payload pass.
  match schema.violations [] payload with
  | [] => .ok ()
  | found => .error (.violations found)

namespace Table

/-- Checks and reads a filter on a table. -/
def validateFilter (table : Table) (payload : Json) : Except ValidationError Filter := do
  -- The schema comes first, so that what it lets pass only fails to be read for its size.
  table.filterSchema.check payload
  (Filter.ofJson payload).mapError .malformed

/-- Checks and reads a request for rows of a table. -/
def validateRequest (table : Table) (payload : Json) : Except ValidationError FindRequest := do
  -- A payload without a text has no place for a fault, and only the wording is kept.
  table.requestSchema.check payload
  (FindRequest.decode (.ofJson payload)).mapError fun error => .malformed (.json error.message)

end Table

end RowFilter
