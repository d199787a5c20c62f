import RowFilter.Store.Basic
import RowFilter.Store.Classification
import RowFilter.Store.RowStream

/-! The operations of a store over a link to a database, whose state they pass on. -/

namespace RowFilter

/-- A link to a database with states `σ`: it runs a statement as a whole or row by row. -/
structure Link (σ : Type) where
  fetch : Statement → σ → Except QueryFailure (List Record) × σ
  cursor : Statement → σ → List (Except QueryFailure Record) × σ

/-- What an operation does to a database, and what it gives back. -/
abbrev Operation (σ α : Type) := ExceptT StoreError (StateM σ) α

/-- An operation that leaves the database alone. -/
def Operation.ofExcept {σ α : Type} (result : Except StoreError α) : Operation σ α :=
  -- The state is not even looked at.
  fun state => (result, state)

namespace Store

/-- The SQL text of a statement. -/
def queryText (store : Store) (statement : Statement) : String :=
  -- Errors and reports quote the statement in this form, without its values.
  (statement.render store.backend).text

/-- Runs a statement; a failure is classified and keeps the SQL text. -/
def run {σ : Type} (store : Store) (link : Link σ) (statement : Statement) :
    Operation σ (List Record) := fun state =>
  let (result, after) := link.fetch statement state
  (result.mapError (·.translate (store.queryText statement) store.backend), after)

/-- Reads a record as a row, after its declared kinds have been restored. -/
def readRow {α : Type} (store : Store) (model : RowModel α) (query : String) (record : Record) :
    Except StoreError α :=
  -- The model sees the kinds that are declared, and not those of the storage.
  model.read (some query) (record.restore store.backend store.table)

/-- Runs a statement and reads its rows, unless there are none and the policy objects. -/
def runRows {σ α : Type} (store : Store) (link : Link σ) (model : RowModel α)
    (onEmpty : EmptyPolicy) (statement : Statement) : Operation σ (List α) := do
  -- The policy comes before the rows are read.
  let records ← store.run link statement
  let query := store.queryText statement
  .ofExcept do
    onEmpty.check records.length query
    records.mapM (store.readRow model query)

/-- Finds a page of rows. -/
def find {σ α : Type} (store : Store) (link : Link σ) (model : RowModel α)
    (options : FindOptions) : Operation σ (List α) := do
  -- A filter that does not compile fails before anything is sent.
  let statement ← .ofExcept (store.findStatement options)
  store.runRows link model options.onEmpty statement

/-- Finds the first row. -/
def findOne {σ α : Type} (store : Store) (link : Link σ) (model : RowModel α)
    (options : FindOneOptions) : Operation σ (Option α) := do
  -- The statement has a limit of one, so that there is no other row.
  let statement ← .ofExcept (store.findOneStatement options)
  let records ← store.run link statement
  let query := store.queryText statement
  .ofExcept do
    options.onEmpty.check records.length query
    records.head?.mapM (store.readRow model query)

/-- The number that a counting statement gives back. -/
def countOf? (records : List Record) : Option Int64 := do
  -- A row of another shape is no count.
  let record ← records.head?
  match ← record.get? "count" with
  | .integer number => number.toInt64?
  | _ => none

/-- Counts rows. -/
def count {σ : Type} (store : Store) (link : Link σ) (filter : Option Filter) :
    Operation σ Int64 := do
  -- The number comes back as a row with one column.
  let statement ← .ofExcept (store.countStatement filter)
  let records ← store.run link statement
  match countOf? records with
  | some number => return number
  | none => throw (.decode "count row missing" (some (store.queryText statement)) none)

/-- Runs statements in order and reads their rows, up to the first error. -/
def runAll {σ α : Type} (store : Store) (link : Link σ) (model : RowModel α) :
    List Statement → Operation σ (List α)
  -- What earlier statements have stored stays when a later one fails.
  | [] => return []
  | statement :: rest => do
    let rows ← store.runRows link model .ignore statement
    let others ← store.runAll link model rest
    return rows ++ others

/-- Inserts an object or a list of objects, and gives the inserted rows back. -/
def insert {σ α : Type} (store : Store) (link : Link σ) (model : RowModel α) (data : Json)
    (projection : Projection) : Operation σ (List α) := do
  -- All groups are formed before the first of them is sent.
  let statements ← .ofExcept (store.insertStatements data projection)
  store.runAll link model statements

/-- Updates rows, and gives them back. -/
def update {σ α : Type} (store : Store) (link : Link σ) (model : RowModel α) (data : Json)
    (options : ChangeOptions) : Operation σ (List α) := do
  -- An update without condition is refused before anything is sent.
  let statement ← .ofExcept (store.updateStatement data options)
  store.runRows link model options.onEmpty statement

/-- Removes rows, and gives them back. -/
def delete {σ α : Type} (store : Store) (link : Link σ) (model : RowModel α)
    (options : ChangeOptions) : Operation σ (List α) := do
  -- A removal without condition is refused before anything is sent.
  let statement ← .ofExcept (store.deleteStatement options)
  store.runRows link model options.onEmpty statement

/-- Reads one item of a cursor as a row; the transform sees the restored record. -/
def streamRow {α : Type} (store : Store) (model : RowModel α) (options : StreamOptions)
    (query : String) (item : Except QueryFailure Record) : Except StoreError α := do
  -- A fault of the cursor is classified with its statement, and one of the model is not.
  let record ← item.mapError (·.translate query store.backend)
  let restored := record.restore store.backend store.table
  model.read none ((options.transform.getD id) restored)

/-- Gives all rows one by one. -/
def stream {σ α : Type} (store : Store) (link : Link σ) (model : RowModel α)
    (options : StreamOptions) : StateM σ (RowStream α) := fun state =>
  match store.streamStatement options with
  -- The cursor is asked for at once, while its rows come later.
  | .error error => (.failed error, state)
  | .ok statement =>
    let (items, after) := link.cursor statement state
    (.ofCursor (store.streamRow model options (store.queryText statement)) items, after)

/-- The stream for want of a scheduler that could run its producer. -/
def unscheduledStream {α : Type} (store : Store) (options : StreamOptions) : RowStream α :=
  -- A filter that does not compile is told even then.
  match store.streamStatement options with
  | .error error => .failed error
  | .ok _ => .failed (.notConnected "record streams require a Tokio runtime" none)

end Store

end RowFilter
