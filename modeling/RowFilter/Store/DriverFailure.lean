/-! Failures that a database driver reports. -/

namespace RowFilter

/-- A failure of a database driver. -/
inductive DriverFailure where
  | poolClosed
  | poolTimedOut
  | workerCrashed
  | rowNotFound
  | beginFailed
  | io (reason : String)
  | tls (reason : String)
  | configuration (reason : String)
  | protocol (reason : String)
  | columnNotFound (column : String)
  | columnDecode (column reason : String)
  | decode (reason : String)
  | encode (reason : String)
  | typeNotFound (name : String)
  | invalidArgument (reason : String)
  | mapping (reason : String)
  | columnOutOfBounds (index length : Nat)
  /-- An error of the database itself: its code, its message and how it is shown. -/
  | database (code : Option String) (message : String) (shown : String)
deriving DecidableEq

/-- The wording of a driver failure. -/
def DriverFailure.message : DriverFailure → String
  -- The texts are those of the driver, which the errors of stores quote.
  | .poolClosed => "attempted to acquire a connection on a closed pool"
  | .poolTimedOut => "pool timed out while waiting for an open connection"
  | .workerCrashed => "attempted to communicate with a crashed background worker"
  | .rowNotFound => "no rows returned by a query that expected to return at least one row"
  | .beginFailed =>
    "got unexpected connection status after attempting to begin transaction"
  | .io reason => s!"error communicating with database: {reason}"
  | .tls reason => s!"error occurred while attempting to establish a TLS connection: {reason}"
  | .configuration reason => s!"error with configuration: {reason}"
  | .protocol reason => s!"encountered unexpected or invalid data: {reason}"
  | .columnNotFound column => s!"no column found for name: {column}"
  | .columnDecode column reason => s!"error occurred while decoding column {column}: {reason}"
  | .decode reason => s!"error occurred while decoding: {reason}"
  | .encode reason => s!"error occurred while encoding a value: {reason}"
  | .typeNotFound name => s!"type named {name} not found"
  | .invalidArgument reason => reason
  | .mapping reason => s!"error in Any driver mapping: {reason}"
  | .columnOutOfBounds index length =>
    s!"column index out of bounds: the len is {length}, but the index is {index}"
  | .database _ _ shown => s!"error returned from database: {shown}"

end RowFilter
