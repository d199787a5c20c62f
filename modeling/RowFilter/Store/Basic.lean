import RowFilter.Config
import RowFilter.Filter.Compile
import RowFilter.Store.Options
import RowFilter.Store.RowGroup
import RowFilter.Text.Printed

/-! A store for the rows of one table, and the statements that its operations send. -/

namespace RowFilter

/-- A store for the rows of a table. -/
structure Store where
  table : Table
  backend : Backend
  settings : QuerySettings

namespace Store

/-- The name of a backend in a description. -/
def backendTitle : Backend → String
  -- These are not the names of the drivers, but those of descriptions.
  | .sqlite => "Sqlite"
  | .postgres => "Postgres"

/-- A description of a store. -/
def describe (store : Store) : String :=
  -- Neither the link nor the settings are told.
  s!"Repository \x7b table: {Text.printed store.table.name}, backend: {backendTitle store.backend} \x7d"

/-- The given order, or that of the identity if no keys are given. -/
def ordering (store : Store) : Option (List SortKey) → List SortKey
  -- An empty list of keys counts as no order.
  | some (key :: keys) => key :: keys
  | _ => [⟨store.table.identityColumn, .ascending⟩]

/-- Adds the condition of a filter to a statement, if there is a filter. -/
def filtered (statement : Statement) : Option Filter → Except StoreError Statement
  -- A filter that does not compile is an error of the store.
  | none => .ok statement
  | some filter => (statement.applyFilter filter).mapError .filter

/-- A statement that changes rows has to have a condition that constrains them. -/
def narrowed (mutation : Mutation) (statement : Statement) (filter : Filter) :
    Except StoreError Statement := do
  -- Whether the condition constrains rows shows only after it has been compiled.
  let restricted ← filtered statement (some filter)
  if restricted.isRestricted then return restricted
  else throw (.unscopedMutation mutation statement.table.name)

/-- A query for ordered rows. -/
def queryStatement (store : Store) (projection : Projection) (order : Option (List SortKey)) :
    Statement :=
  -- There is always an order, so that pages do not overlap.
  { Statement.new store.table .select with projection, order := store.ordering order }

/-- The statement of a query for a page of rows. -/
def findStatement (store : Store) (options : FindOptions) : Except StoreError Statement :=
  -- A missing limit is not the same as no limit.
  let page : Page := ⟨options.limit.getD store.settings.defaultLimit, options.offset.getD 0⟩
  filtered { store.queryStatement options.projection options.order with page := some page }
    options.filter

/-- The statement of a query for the first row. -/
def findOneStatement (store : Store) (options : FindOneOptions) : Except StoreError Statement :=
  -- One row is asked for, and not all of them.
  filtered { store.queryStatement options.projection options.order with page := some ⟨1, 0⟩ }
    (some options.filter)

/-- The statement of a query for the number of rows. -/
def countStatement (store : Store) (filter : Option Filter) : Except StoreError Statement :=
  -- The order and the columns make no difference to a number.
  filtered (.new store.table .count) filter

/-- The statement of a query for all rows one by one. -/
def streamStatement (store : Store) (options : StreamOptions) : Except StoreError Statement :=
  -- A stream has no page.
  filtered (store.queryStatement options.projection options.order) options.filter

/-- One record of inserted data. -/
def insertedRecord : Json → Except StoreError Record
  -- Values are checked by the database only.
  | .object members => .ok members
  | other => .error (.invalidData s!"insert expects objects, got {other.typeName}")

/-- The records of inserted data: one object, or a list of objects. -/
def insertedRecords : Json → Except StoreError (List Record)
  -- An object is a list of one record.
  | .object members => .ok [members]
  | .array items => items.mapM insertedRecord
  | other =>
    .error (.invalidData s!"insert expects an object or an array of objects, got {other.typeName}")

/-- The statement that inserts a group of rows. -/
def insertStatement (store : Store) (projection : Projection) (group : RowGroup) : Statement :=
  -- The rows are given back with the columns of the projection.
  { Statement.new store.table (.insert group.columns group.rows) with projection }

/-- The statements that insert data, in order. -/
def insertStatements (store : Store) (data : Json) (projection : Projection) :
    Except StoreError (List Statement) := do
  -- All data is read before the first statement is made.
  let records ← insertedRecords data
  let groups := RowGroup.ofRecords store.backend.maxParameters records
  return groups.map (store.insertStatement projection)

/-- The assignments of an update. -/
def assignmentsOf : Json → Except StoreError (List (String × Json))
  -- An update of nothing is refused before its condition is looked at.
  | .object [] => .error (.invalidData "update data has no columns")
  | .object members => .ok members
  | other => .error (.invalidData s!"update expects an object, got {other.typeName}")

/-- The statement of an update. -/
def updateStatement (store : Store) (data : Json) (options : ChangeOptions) :
    Except StoreError Statement := do
  -- The data is looked at before the filter.
  let assignments ← assignmentsOf data
  narrowed .update
    { Statement.new store.table (.update assignments) with projection := options.projection }
    options.filter

/-- The statement of a removal. -/
def deleteStatement (store : Store) (options : ChangeOptions) : Except StoreError Statement :=
  -- A removal has no data, so that only its condition can be refused.
  narrowed .delete { Statement.new store.table .delete with projection := options.projection }
    options.filter

end Store

end RowFilter
