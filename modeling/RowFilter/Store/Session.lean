import RowFilter.Engine.Record
import RowFilter.Store.Operations
import RowFilter.Store.Transaction

/-! A database in memory behind a pool of one connection, with transactions that have names. -/

namespace RowFilter

/-- A pool of one connection, which is away while a transaction holds it. -/
structure Pool where
  backend : Backend
  isClosed : Bool
  idle : Option Engine.Database

/-- A connection inside a transaction. -/
structure Connection where
  database : Engine.Database
  /-- The database as it was when the transaction began. -/
  saved : Engine.Database
  /-- Whether the connection goes back to the pool of the session. -/
  isPooled : Bool

/-- A pool and the transactions in use. -/
structure Session where
  pool : Pool
  transactions : List (String × Transaction Connection)

namespace Pool

/-- The connection of a pool that is open and has it at hand. -/
def acquire (pool : Pool) : Except DriverFailure Engine.Database :=
  -- A closed pool gives nothing out, even if a connection is at hand.
  if pool.isClosed then .error .poolClosed
  else
    match pool.idle with
    | some database => .ok database
    | none => .error .poolTimedOut

end Pool

namespace Session

/-- A session over a database, without transactions. -/
def start (backend : Backend) (database : Engine.Database) : Session :=
  -- The connection is at hand as long as no transaction has it.
  ⟨⟨backend, false, some database⟩, []⟩

/-- Closes the pool. -/
def close (session : Session) : Session :=
  -- The database itself stays, but nobody gets it any more.
  { session with pool := { session.pool with isClosed := true } }

/-- Puts a database back into the pool. -/
def release (session : Session) (database : Engine.Database) : Session :=
  -- There is one connection, so that nothing is lost by this.
  { session with pool := { session.pool with idle := some database } }

/-- Sets a named transaction. -/
def setTransaction (session : Session) (name : String) (transaction : Transaction Connection) :
    Session :=
  -- A name stands for its latest transaction.
  { session with
    transactions := (name, transaction) :: session.transactions.filter (·.1 != name) }

/-- Adds an open transaction on an empty database outside the session. -/
def withForeign (session : Session) (name : String) : Session :=
  -- Its connection does not come from the pool, and does not go back to it.
  session.setTransaction name ⟨.sqlite, some ⟨[], [], false⟩⟩

/-- Begins a transaction, which takes the connection of the pool. -/
def begin (session : Session) (name : String) : Except StoreError Backend × Session :=
  -- What the database was before is kept for an undoing.
  match session.pool.acquire with
  | .error failure => (.error (failure.classify "BEGIN" session.pool.backend), session)
  | .ok database =>
    let transaction := ⟨session.pool.backend, some ⟨database, database, true⟩⟩
    let away := { session with pool := { session.pool with idle := none } }
    (.ok session.pool.backend, away.setTransaction name transaction)

/-- Ends a transaction and leaves what `keep` chooses of its connection in the database. -/
def finish (session : Session) (name : String) (keep : Connection → Engine.Database) :
    Except StoreError Unit × Session :=
  -- A name that is not known counts as finished.
  match session.transactions.lookup name with
  | none => (.error Transaction.finished, session)
  | some transaction =>
    match transaction.take with
    | (.error error, _) => (.error error, session)
    | (.ok connection, rest) =>
      let left := session.setTransaction name rest
      -- Only a connection of the pool goes back there.
      (.ok (), if connection.isPooled then left.release (keep connection) else left)

/-- Ends a transaction and keeps its changes. -/
def commit (session : Session) (name : String) : Except StoreError Unit × Session :=
  -- What the connection has seen becomes the database.
  session.finish name Connection.database

/-- Ends a transaction and undoes its changes. -/
def rollback (session : Session) (name : String) : Except StoreError Unit × Session :=
  -- What was there at the beginning becomes the database.
  session.finish name Connection.saved

/-- Forgets a transaction, which undoes its changes if it is open. -/
def drop (session : Session) (name : String) : Bool × Session :=
  -- Dropping a finished transaction changes nothing but that the name is free.
  let left := (session.rollback name).2
  ((session.transactions.lookup name).isSome,
    { left with transactions := left.transactions.filter (·.1 != name) })

/-- Whether a named transaction is finished, if there is one. -/
def isFinished? (session : Session) (name : String) : Option Bool :=
  -- A name that is not known has no answer.
  (session.transactions.lookup name).map Transaction.isFinished

/-- Runs an action on the database that a statement reaches: that of the pool, or that of a
transaction. -/
def reach {α : Type} (name : Option String) (refuse : QueryFailure → α)
    (action : Engine.Database → α × Engine.Database) (session : Session) : α × Session :=
  -- A refusal leaves the session as it was, and an action puts the database back.
  match name with
  | none =>
    match session.pool.acquire with
    | .error failure => (refuse (.driver failure), session)
    | .ok database =>
      let (result, after) := action database
      (result, session.release after)
  | some name =>
    match session.transactions.lookup name with
    | none => (refuse (.classified Transaction.finished), session)
    | some transaction =>
      match transaction.use session.pool.backend with
      | .error error => (refuse (.classified error), session)
      | .ok connection =>
        let (result, after) := action connection.database
        let changed := { transaction with connection := some { connection with database := after } }
        (result, session.setTransaction name changed)

/-- The link to the database of a session, inside a transaction if one is named. -/
def link (transaction : Option String) : Link Session where
  -- Rows come all at once or one by one, but from the same database.
  fetch := fun statement =>
    reach transaction .error fun database =>
      let (result, after) := database.fetch statement
      (result.mapError .driver, after)
  cursor := fun statement =>
    reach transaction (fun failure => [.error failure]) fun database =>
      let (items, after) := database.cursor statement
      (items.map (·.mapError .driver), after)

end Session

end RowFilter
