import RowFilter.Engine.Cell
import Std.Data.TreeMap

/-! Stored tables: columns with their rules, and rows in the order of their numbers. -/

namespace RowFilter.Engine

/-- A column of a stored table. -/
structure Column where
  name : String
  affinity : Affinity
  /-- Whether the column is the primary key. -/
  isKey : Bool
  /-- Whether numbers of removed rows are never given again. -/
  neverReused : Bool
  isRequired : Bool
  isUnique : Bool
  /-- What is stored when nothing is given. -/
  fallback : Cell
  /-- The value of a column that is computed and cannot be written. -/
  generated : Option Cell

/-- A row: one cell for each column. -/
abbrev Row := List Cell

/-- A stored table. -/
structure Relation where
  name : String
  columns : List Column
  /-- The greatest row number that was ever used. -/
  highest : Int
  rows : Std.TreeMap Int Row

/-- Where a name leads to: a column by its position, or the number of the row. -/
inductive Slot where
  | column (position : Nat) (column : Column)
  | rowNumber

/-- Names are the same if they differ only in the case of ASCII letters. -/
def sameName (left right : String) : Bool := left.map Char.toLower == right.map Char.toLower

/-- The names that the number of a row has in every table. -/
def rowNumberNames : List String := ["rowid", "oid", "_rowid_"]

namespace Relation

/-- A table without rows. -/
def new (name : String) (columns : List Column) : Relation := ⟨name, columns, 0, ∅⟩

/-- The position and the column that a test finds first. -/
def findFrom? (test : Column → Bool) (position : Nat) : List Column → Option (Nat × Column)
  -- The position counts the columns that were passed over.
  | [] => none
  | column :: rest =>
    if test column then some (position, column) else findFrom? test (position + 1) rest

/-- The column whose cells are the numbers of the rows: a primary key of whole numbers. -/
def numberColumn? (relation : Relation) : Option (Nat × Column) :=
  -- Such a column is another name for the row number.
  findFrom? (fun column => column.isKey && column.affinity = .integer) 0 relation.columns

/-- Where a name leads to. -/
def locate? (relation : Relation) (name : String) : Option Slot :=
  -- A column wins over the names of the row number, which it may bear itself.
  match findFrom? (sameName ·.name name) 0 relation.columns with
  | some (position, column) => some (.column position column)
  | none =>
    if rowNumberNames.any (sameName · name) then
      match relation.numberColumn? with
      | some (position, column) => some (.column position column)
      | none => some .rowNumber
    else none

end Relation

namespace Slot

/-- The name under which a result shows a slot. -/
def title : Slot → String
  -- The row number always bears the first of its names.
  | .column _ described => described.name
  | .rowNumber => "rowid"

/-- The affinity of a slot. -/
def affinity : Slot → Affinity
  -- Row numbers are whole numbers.
  | .column _ described => described.affinity
  | .rowNumber => .integer

/-- The cell of a row in a slot. -/
def cell (slot : Slot) (number : Int) (row : Row) : Cell :=
  -- A row number is stored beside the row, and not in it.
  match slot with
  | .column position _ => row.getD position .null
  | .rowNumber => .int (Int64.ofInt number)

end Slot

end RowFilter.Engine
