import RowFilter.Engine.Change
import RowFilter.Sql.Statement

/-! What statements do to a database and what they give back; a statement that fails does nothing. -/

namespace RowFilter.Engine

/-- The stored tables of a database. -/
abbrev Database := List Relation

/-- The columns and rows that a statement gives back. -/
structure ResultSet where
  titles : List String
  rows : List (List Cell)

namespace Relation

/-- The slot of a column that has to exist. -/
def slotOf (relation : Relation) (name : String) : Except Fault Slot :=
  -- A name that leads nowhere makes the statement fail before it runs.
  match relation.locate? name with
  | some slot => .ok slot
  | none => .error (.noSuchColumn name)

/-- The slots of all columns. -/
def allSlots (relation : Relation) : List Slot :=
  -- The hidden row number is not among them.
  relation.columns.zipIdx.map fun (column, position) => .column position column

/-- The slots that a projection covers; an empty choice covers everything. -/
def slotsOf (relation : Relation) : Projection → Except Fault (List Slot)
  -- A list of names may repeat a column, which is then shown twice.
  | .all | .columns [] => .ok relation.allSlots
  | .columns names => names.mapM relation.slotOf

/-- The columns of a condition exist; the title of a count is no column. -/
def checkCondition (relation : Relation) (countTitle : Option String) (condition : Predicate) :
    Except Fault Unit := do
  for name in condition.columns do
    if (relation.locate? name).isNone then
      throw (if countTitle.any (sameName · name) then .misusedCount else .noSuchColumn name)

/-- The rows that a condition selects. -/
def selected (relation : Relation) (condition : Predicate) : List NumberedRow :=
  -- Rows come in the order of their numbers, which is that of the table.
  relation.rows.toList.filter fun (number, row) => condition.selects (relation.tests number row)

/-- The cells of rows in some slots. -/
def shown (slots : List Slot) (rows : List NumberedRow) : ResultSet :=
  -- The titles are the names of the columns, and not those that were asked by.
  ⟨slots.map Slot.title, rows.map fun (number, row) => slots.map fun slot => slot.cell number row⟩

/-- The order of two rows by sort keys, the first of which decides if it can. -/
def orderBy : List (Slot × Direction) → NumberedRow → NumberedRow → Ordering
  -- A key that does not decide leaves the order to the ones behind it.
  | [], _, _ => .eq
  | (slot, direction) :: rest, left, right =>
    let found := (slot.cell left.1 left.2).order (slot.cell right.1 right.2)
    let turned := if direction = .descending then found.swap else found
    turned.then (orderBy rest left right)

/-- Cuts a page out of rows. -/
def cut {α : Type} (page : Option Page) (rows : List α) : List α :=
  -- A page first passes rows over and then counts those it keeps.
  match page with
  | some page => (rows.drop page.offset.toNat).take page.limit.toNat
  | none => rows

/-- A query for rows. -/
def select (relation : Relation) (statement : Statement) : Except Fault ResultSet := do
  -- The columns, the condition and the keys are looked up in this order, and the first fault
  -- counts.
  let slots ← relation.slotsOf statement.projection
  relation.checkCondition none statement.filter
  let keys ← statement.order.mapM fun key => do return (← relation.slotOf key.column, key.direction)
  let rows := (relation.selected statement.filter).mergeSort fun left right =>
    orderBy keys left right ≠ .gt
  return shown slots (cut statement.page rows)

/-- The name under which the number of rows is given back. -/
def countTitle : String := "count"

/-- A query for the number of rows. -/
def count (relation : Relation) (condition : Predicate) : Except Fault ResultSet := do
  -- Aggregates may not stand in the condition, which their title could lead to.
  relation.checkCondition (some countTitle) condition
  return ⟨[countTitle], [[.int (Int64.ofNat (relation.selected condition).length)]]⟩

/-- The cell of a value that is written. -/
def cellOf (value : Json) : Cell := ((Parameter.ofJson? value).map Cell.ofParameter).getD .null

/-- The slot of a column into which rows are inserted. -/
def insertSlot (relation : Relation) (name : String) : Except Fault Slot :=
  -- A computed column is found, but nothing may be written into it.
  match relation.locate? name with
  | some (.column position column) =>
    if column.generated.isSome then .error (.insertGenerated column.name)
    else .ok (.column position column)
  | some .rowNumber => .ok .rowNumber
  | none => .error (.noColumnNamed relation.name name)

/-- An insertion; without columns it adds one row of defaults. -/
def insert (relation : Relation) (columns : List String) (values : List (List Json))
    (projection : Projection) : Except Fault (ResultSet × Relation) := do
  -- The target columns are looked up before the columns that are given back.
  let slots ← columns.mapM relation.insertSlot
  let shownSlots ← relation.slotsOf projection
  let written :=
    if columns.isEmpty then [[]] else values.map fun row => slots.zip (row.map cellOf)
  let (changed, rows) ← relation.insertRows written
  return (shown shownSlots rows, changed)

/-- The assignment of a value to a column. -/
def assignment (relation : Relation) (assigned : String × Json) : Except Fault (Slot × Cell) := do
  -- Unlike in an insertion, a missing column is told without its table.
  match ← relation.slotOf assigned.1 with
  | .column position column =>
    if column.generated.isSome then throw (.updateGenerated column.name)
    else return (.column position column, cellOf assigned.2)
  | .rowNumber => return (.rowNumber, cellOf assigned.2)

/-- An update of the rows that a condition selects. -/
def update (relation : Relation) (assigned : List (String × Json)) (statement : Statement) :
    Except Fault (ResultSet × Relation) := do
  -- The rows are selected before any of them is changed.
  let assignments ← assigned.mapM relation.assignment
  relation.checkCondition none statement.filter
  let slots ← relation.slotsOf statement.projection
  let (changed, rows) ← relation.updateRows assignments (relation.selected statement.filter)
  return (shown slots rows, changed)

/-- A removal of the rows that a condition selects. -/
def delete (relation : Relation) (statement : Statement) : Except Fault (ResultSet × Relation) := do
  -- The rows are given back as they were.
  relation.checkCondition none statement.filter
  let slots ← relation.slotsOf statement.projection
  let rows := relation.selected statement.filter
  return (shown slots rows, relation.deleteRows rows)

/-- What a statement gives back, and its table afterwards. -/
def run (relation : Relation) (statement : Statement) : Except Fault (ResultSet × Relation) :=
  -- Only changes of rows change the table.
  match statement.action with
  | .select => (relation.select statement).map (·, relation)
  | .count => (relation.count statement.filter).map (·, relation)
  | .insert columns rows => relation.insert columns rows statement.projection
  | .update assignments => relation.update assignments statement
  | .delete => relation.delete statement

end Relation

/-- A statement stays within the limits on variables and on the height of expressions. -/
def checkLimits (statement : Statement) : Except Fault Unit :=
  if Backend.sqlite.maxParameters < (statement.render .sqlite).bound.size then
    .error .tooManyVariables
  else
    match statement.action with
    -- An insertion has no condition, and its values are no chain.
    | .insert _ _ => .ok ()
    | _ =>
      if maxHeight < (height? statement.filter).getD 0 then .error .tooDeep else .ok ()

namespace Database

/-- Runs a statement on the table that it names. -/
def run (statement : Statement) : Database → Except Fault (ResultSet × Database)
  -- The first table with the name is the one that is meant.
  | [] => .error (.noSuchTable statement.table.name)
  | relation :: rest =>
    if sameName relation.name statement.table.name then do
      let (result, changed) ← relation.run statement
      return (result, changed :: rest)
    else do
      let (result, changed) ← run statement rest
      return (result, relation :: changed)

/-- Runs a statement; if it fails, the database stays as it was. -/
def execute (database : Database) (statement : Statement) : Except Fault ResultSet × Database :=
  -- The limits are checked when a statement is prepared, before its names are looked up.
  match (do checkLimits statement; database.run statement) with
  | .ok (result, changed) => (.ok result, changed)
  | .error fault => (.error fault, database)

end Database

end RowFilter.Engine
