import RowFilter.Filter.Error
import RowFilter.Json.Basic
import RowFilter.Store.DriverFailure

/-! The errors of a store: each has a stable kind, and most keep the query and their origin. -/

namespace RowFilter

/-- Where an error comes from. -/
inductive Origin where
  | text (message : String)
  | driver (failure : DriverFailure)
deriving DecidableEq

/-- The wording of an origin. -/
def Origin.message : Origin → String
  -- The failure of a driver tells of itself.
  | .text message => message
  | .driver failure => failure.message

/-- A change of rows that needs a condition. -/
inductive Mutation where
  | update
  | delete
deriving DecidableEq

/-- The name of a change. -/
def Mutation.name : Mutation → String
  -- The names are those of the operations.
  | .update => "update"
  | .delete => "delete"

/-- An error of a store. -/
inductive StoreError where
  | connection (reason : String) (query : Option String) (origin : Option Origin)
  | notConnected (reason : String) (query : Option String)
  | tableNotFound (table : String) (query : Option String) (origin : Option Origin)
  | columnNotFound (column : String) (query : Option String) (origin : Option Origin)
  | identityColumnViolation (reason : String) (query : Option String) (origin : Option Origin)
  | noResult (reason : String) (query : Option String)
  | query (reason : String) (query : Option String) (origin : Option Origin)
  | filter (error : FilterError)
  | unscopedMutation (mutation : Mutation) (table : String)
  | invalidData (reason : String)
  | decode (reason : String) (query : Option String) (origin : Option Origin)
deriving DecidableEq

/-- The stable kind of an error. -/
inductive ErrorKind where
  | connection
  | notConnected
  | tableNotFound
  | columnNotFound
  | identityColumnViolation
  | noResult
  | query
  | filter
  | unscopedMutation
  | invalidData
  | decode
deriving DecidableEq

/-- The name of a kind. -/
def ErrorKind.name : ErrorKind → String
  -- The names are stable, unlike the wording of messages.
  | .connection => "connection"
  | .notConnected => "not_connected"
  | .tableNotFound => "table_not_found"
  | .columnNotFound => "column_not_found"
  | .identityColumnViolation => "identity_column_violation"
  | .noResult => "no_result"
  | .query => "query"
  | .filter => "filter"
  | .unscopedMutation => "unscoped_mutation"
  | .invalidData => "invalid_data"
  | .decode => "decode"

namespace StoreError

/-- The reason given when a statement should have given rows back and gave none. -/
def defaultNoResult : String := "No result found"

/-- The error for a statement without rows. -/
def missingResult (reason : Option String) (query : String) : StoreError :=
  -- The caller may give the reason, and the statement is always told.
  .noResult (reason.getD defaultNoResult) (some query)

/-- The kind of an error. -/
def kind : StoreError → ErrorKind
  -- The kind is the same for all drivers.
  | .connection _ _ _ => .connection
  | .notConnected _ _ => .notConnected
  | .tableNotFound _ _ _ => .tableNotFound
  | .columnNotFound _ _ _ => .columnNotFound
  | .identityColumnViolation _ _ _ => .identityColumnViolation
  | .noResult _ _ => .noResult
  | .query _ _ _ => .query
  | .filter _ => .filter
  | .unscopedMutation _ _ => .unscopedMutation
  | .invalidData _ => .invalidData
  | .decode _ _ _ => .decode

/-- The wording of an error. -/
def message : StoreError → String
  -- The statement is not part of the message.
  | .connection reason _ _ => s!"Connection error: {reason}"
  | .notConnected reason _ => s!"Not connected: {reason}"
  | .tableNotFound table _ _ => s!"Table '{table}' not found"
  | .columnNotFound column _ _ => s!"Column '{column}' not found"
  | .identityColumnViolation reason _ _ => s!"Identity column violation: {reason}"
  | .noResult reason _ => reason
  | .query reason _ _ => s!"Query failed: {reason}"
  | .filter error => s!"Invalid filter: {error.message}"
  | .unscopedMutation mutation table =>
    s!"Refusing to {mutation.name} every row of '{table}' without filters"
  | .invalidData reason => s!"Invalid data: {reason}"
  | .decode reason _ _ => s!"Decode error: {reason}"

/-- The SQL text of the statement that failed, if one was sent. -/
def queryText? : StoreError → Option String
  -- What is refused before a statement is made has none.
  | .connection _ sql _ | .notConnected _ sql | .tableNotFound _ sql _ | .columnNotFound _ sql _
  | .identityColumnViolation _ sql _ | .noResult _ sql | .query _ sql _ | .decode _ sql _ => sql
  | .filter _ | .unscopedMutation _ _ | .invalidData _ => none

/-- Where an error comes from, if that is known. -/
def origin? : StoreError → Option Origin
  -- A filter error is its own cause, and other refusals have no cause.
  | .connection _ _ origin | .tableNotFound _ _ origin | .columnNotFound _ _ origin
  | .identityColumnViolation _ _ origin | .query _ _ origin | .decode _ _ origin => origin
  | .filter error => some (.text error.message)
  | .notConnected _ _ | .noResult _ _ | .unscopedMutation _ _ | .invalidData _ => none

/-- Notes the statement that failed, unless one is known already. -/
def withQuery (error : StoreError) (text : String) : StoreError :=
  -- Errors without a statement stay without one.
  match error with
  | .connection reason sql origin => .connection reason (sql.or text) origin
  | .notConnected reason sql => .notConnected reason (sql.or text)
  | .tableNotFound table sql origin => .tableNotFound table (sql.or text) origin
  | .columnNotFound column sql origin => .columnNotFound column (sql.or text) origin
  | .identityColumnViolation reason sql origin =>
    .identityColumnViolation reason (sql.or text) origin
  | .noResult reason sql => .noResult reason (sql.or text)
  | .query reason sql origin => .query reason (sql.or text) origin
  | .decode reason sql origin => .decode reason (sql.or text) origin
  | .filter inner => .filter inner
  | .unscopedMutation mutation table => .unscopedMutation mutation table
  | .invalidData reason => .invalidData reason

/-- Whether trying again may help: only if the connection failed for no lasting reason. -/
def isTransient : StoreError → Bool
  -- A wrong address or a broken handshake stays wrong.
  | .connection _ _ (some (.driver (.configuration _))) => false
  | .connection _ _ (some (.driver (.tls _))) => false
  | .connection _ _ _ => true
  | _ => false

/-- The text of a document that may be missing. -/
def optionalText (text : Option String) : Json := (text.map Json.string).getD .null

/-- The structured form of an error. -/
def report (error : StoreError) : Json :=
  -- Absent parts are null, so that every report has the same keys.
  .object
    [("kind", .string error.kind.name), ("message", .string error.message),
      ("queryText", optionalText error.queryText?),
      ("cause", optionalText (error.origin?.map Origin.message))]

end StoreError

end RowFilter
