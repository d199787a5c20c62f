import RowFilter.Engine.Condition
import RowFilter.Engine.Fault

/-! Changes of single rows, and the rules that a row has to meet. -/

namespace RowFilter.Engine

/-- A row with its number. -/
abbrev NumberedRow := Int × Row

namespace Slot

/-- Whether a slot holds the numbers of the rows of a table. -/
def isNumberOf (slot : Slot) (relation : Relation) : Bool :=
  match slot with
  -- A key of whole numbers is the row number under another name.
  | .rowNumber => true
  | .column position _ => (relation.numberColumn?.map Prod.fst) = some position

/-- Whether a slot is the column at a position. -/
def isColumn (position : Nat) : Slot → Bool
  -- The hidden row number is no column.
  | .column other _ => other = position
  | .rowNumber => false

end Slot

namespace Relation

/-- Row numbers are words, and this one is the first that is none. -/
def numberBound : Int := 0x8000000000000000

/-- The number for a row that brings none: one more than the greatest in use, or ever used. -/
def nextNumber (relation : Relation) : Except Fault Int :=
  -- Without rows the numbers start at one, and a table may forbid to use one again.
  let start := (relation.rows.maxKey?.map (· + 1)).getD 1
  let counted := (relation.numberColumn?.map fun found => found.2.neverReused).getD false
  let next := if counted then max start (relation.highest + 1) else start
  if numberBound ≤ next then .error .full else .ok next

/-- A cell as the number of a row. -/
def numberOf (cell : Cell) : Except Fault Int :=
  -- The cell is stored as a column of whole numbers would store it, and has to come out as one.
  match Affinity.integer.store cell with
  | .int word => .ok word.toInt
  | _ => .error .mismatch

/-- Columns that have to hold a value hold one. -/
def checkRequired (relation : Relation) (row : Row) : Except Fault Unit :=
  -- The first column that lacks its value is the one that is told.
  match (relation.columns.zip row).find? fun (column, cell) => column.isRequired && cell = .null with
  | some (column, _) => .error (.missingValue relation.name column.name)
  | none => .ok ()

/-- No other row has the same number. -/
def checkNumber (relation : Relation) (number : Int) : Except Fault Unit :=
  -- The fault names the key column if there is one, and else the row number.
  if relation.rows.contains number then
    match relation.numberColumn? with
    | some (_, column) => .error (.duplicateKey relation.name column.name)
    | none => .error (.duplicateRow relation.name)
  else .ok ()

/-- The columns whose values differ from row to row, the last one first. -/
def distinctColumns (relation : Relation) : List (Nat × Column) :=
  -- The column of row numbers is checked by itself, before the others.
  let numbered := relation.numberColumn?.map Prod.fst
  (relation.columns.zipIdx.filterMap fun (column, position) =>
    if (column.isUnique || column.isKey) && numbered ≠ some position then some (position, column)
    else none).reverse

/-- Whether another row has a value in a column. -/
def holdsElsewhere (relation : Relation) (number : Int) (position : Nat) (cell : Cell) : Bool :=
  -- The row itself is left out, so that an update may keep its values.
  relation.rows.any fun other row =>
    other ≠ number && cell.order (row.getD position .null) = .eq

/-- No other row has the same value in a column whose values differ; nulls differ from all. -/
def checkDistinct (relation : Relation) (number : Int) (row : Row) : Except Fault Unit :=
  -- Of the offending columns the first one in this order is told.
  let offending := relation.distinctColumns.find? fun (position, _) =>
    let cell := row.getD position .null
    cell ≠ .null && relation.holdsElsewhere number position cell
  match offending with
  | some (_, column) =>
    .error (if column.isKey then .duplicateKey relation.name column.name
      else .duplicateValue relation.name column.name)
  | none => .ok ()

/-- Puts the number of a row into its column. -/
def withNumber (relation : Relation) (number : Int) (row : Row) : Row :=
  -- The column of row numbers shows the number, whatever was written there.
  match relation.numberColumn? with
  | some (position, _) => row.set position (.int (Int64.ofInt number))
  | none => row

/-- The cells of a new row: computed, written, or those for want of a value. -/
def newCells (relation : Relation) (written : List (Slot × Cell)) : Row :=
  -- A computed column wins over what is written, and the fallback fills what is not.
  relation.columns.zipIdx.map fun (column, position) =>
    let given := (written.find? fun entry => entry.1.isColumn position).map Prod.snd
    column.affinity.store (column.generated.getD (given.getD column.fallback))

/-- Inserts a row. The last value for its number counts, and without one it takes the next number. -/
def insertRow (relation : Relation) (written : List (Slot × Cell)) :
    Except Fault (Relation × NumberedRow) := do
  -- The number is settled first, since the faults are looked for in the order of the checks.
  let given :=
    ((written.reverse.find? fun entry => entry.1.isNumberOf relation).map Prod.snd).getD .null
  let number ← if given = .null then relation.nextNumber else numberOf given
  let row := relation.withNumber number (relation.newCells written)
  relation.checkRequired row
  relation.checkNumber number
  relation.checkDistinct number row
  let highest := max relation.highest number
  return ({ relation with highest, rows := relation.rows.insert number row }, (number, row))

/-- Inserts rows one after the other. -/
def insertRows (relation : Relation) :
    List (List (Slot × Cell)) → Except Fault (Relation × List NumberedRow)
  -- A fault in one row undoes those before it, because the changed table is given back only at the
  -- end.
  | [] => .ok (relation, [])
  | written :: rest => do
    let (relation, row) ← relation.insertRow written
    let (relation, rows) ← relation.insertRows rest
    return (relation, row :: rows)

/-- Assigns cells in a row, the last one to a slot winning, and stores the row. -/
def updateRow (relation : Relation) (assignments : List (Slot × Cell)) (old : NumberedRow) :
    Except Fault (Relation × NumberedRow) := do
  let given := (assignments.reverse.find? fun entry => entry.1.isNumberOf relation).map Prod.snd
  -- The row keeps its number unless one is assigned.
  let number ←
    match given with
    | some cell => numberOf cell
    | none => pure old.1
  let row := assignments.foldl (fun row (slot, cell) =>
    match slot with
    | .column position column => row.set position (column.affinity.store cell)
    | .rowNumber => row) old.2
  let row := relation.withNumber number row
  relation.checkRequired row
  -- Only a number that changes can clash with that of another row.
  if number ≠ old.1 then relation.checkNumber number
  relation.checkDistinct old.1 row
  return ({ relation with rows := (relation.rows.erase old.1).insert number row }, (number, row))

/-- Updates rows one after the other. -/
def updateRows (relation : Relation) (assignments : List (Slot × Cell)) :
    List NumberedRow → Except Fault (Relation × List NumberedRow)
  -- The rows are those that were selected before the first one was changed.
  | [] => .ok (relation, [])
  | old :: rest => do
    let (relation, row) ← relation.updateRow assignments old
    let (relation, rows) ← relation.updateRows assignments rest
    return (relation, row :: rows)

/-- Removes rows. -/
def deleteRows (relation : Relation) (rows : List NumberedRow) : Relation :=
  -- Removing a row breaks no rule, so that there is no fault.
  { relation with rows := rows.foldl (fun kept row => kept.erase row.1) relation.rows }

end Relation

end RowFilter.Engine
