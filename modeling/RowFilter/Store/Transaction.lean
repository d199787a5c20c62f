import RowFilter.Sql.Backend
import RowFilter.Store.Error

/-! Transaction handles: each holds its connection until it is finished, and finishes once. -/

namespace RowFilter

/-- A handle on a transaction with connections `κ`. -/
structure Transaction (κ : Type) where
  backend : Backend
  /-- The connection, which is given up when the transaction is finished. -/
  connection : Option κ

namespace Transaction

/-- The error for a transaction that is finished. -/
def finished : StoreError := .notConnected "transaction already finished" none

/-- Whether a transaction is finished. -/
def isFinished {κ : Type} (transaction : Transaction κ) : Bool :=
  -- A handle without connection cannot get one again.
  transaction.connection.isNone

/-- Refuses a store of another backend. -/
def check {κ : Type} (transaction : Transaction κ) (backend : Backend) : Except StoreError Unit :=
  -- The names of both backends are told.
  if transaction.backend ≠ backend then
    .error (.invalidData
      s!"{transaction.backend.name} transaction used with a {backend.name} database")
  else .ok ()

/-- The connection of a handle that is not finished. -/
def held {κ : Type} (transaction : Transaction κ) : Except StoreError κ :=
  -- The error is the same for all that is asked of a finished handle.
  match transaction.connection with
  | some connection => .ok connection
  | none => .error finished

/-- The connection for a statement, which has to come from a store of the same backend. -/
def use {κ : Type} (transaction : Transaction κ) (backend : Backend) : Except StoreError κ := do
  -- The backend is compared first, so that a foreign store is told so even at a finished handle.
  transaction.check backend
  transaction.held

/-- Takes the connection out of a handle, which is finished from then on. -/
def take {κ : Type} (transaction : Transaction κ) : Except StoreError κ × Transaction κ :=
  -- Taking from a finished handle leaves it finished.
  match transaction.connection with
  | some connection => (.ok connection, { transaction with connection := none })
  | none => (.error finished, transaction)

end Transaction

end RowFilter
