import RowFilter.Sql.Condition
import RowFilter.Sql.Projection

/-! Statements against one table, and their SQL. -/

namespace RowFilter

/-- What a statement does. -/
inductive Action where
  | select
  | count
  /-- One value per column in each row, in the order of the columns. -/
  | insert (columns : List String) (rows : List (List Json))
  | update (assignments : List (String × Json))
  | delete
deriving DecidableEq

/-- Which rows of a result are given back. -/
structure Page where
  limit : UInt32
  offset : UInt32
deriving DecidableEq

/-- A statement against one table. -/
structure Statement where
  table : Table
  action : Action
  /-- The columns of a query, or those given back by a change. -/
  projection : Projection
  filter : Predicate
  order : List SortKey
  page : Option Page

namespace Statement

open Sql

/-- A statement without conditions, order or page. -/
def new (table : Table) (action : Action) : Statement :=
  -- All columns are given back, and nothing constrains the rows.
  ⟨table, action, .all, .anything, [], none⟩

/-- Adds a condition to those a statement has. -/
def restrict (statement : Statement) (predicate : Predicate) : Statement :=
  -- The conjunction is kept flat, as far as its parts allow.
  { statement with filter := statement.filter.and predicate }

/-- Whether a statement has a condition that constrains rows. -/
def isRestricted (statement : Statement) : Bool := !statement.filter.isEmpty

/-- Whether a value is read as a point in time when it is stored in a column. -/
def isTemporal (table : Table) (column : String) : Json → Bool
  -- Only a text can be read as one.
  | .string _ => table.kindOf? column == some .date
  | _ => false

/-- A stored value; null is written out and not bound. -/
def storedPiece (table : Table) (column : String) (value : Json) : Piece :=
  -- A literal null needs no place, which would have to be counted.
  match Parameter.ofJson? value with
  | some parameter => .value parameter (isTemporal table column value)
  | none => .word .null

/-- One row of an insertion. -/
def rowFragment (table : Table) (columns : List String) (row : List Json) : Fragment :=
  -- Columns without a value in the row are not written.
  Fragment.tuple ((columns.zip row).map fun (column, value) => [storedPiece table column value])

/-- One assignment of an update. -/
def assignmentFragment (table : Table) (assignment : String × Json) : Fragment :=
  -- A column is assigned to once for each pair.
  [.name assignment.1, .blank, .mark .equal, .blank,
    storedPiece table assignment.1 assignment.2]

/-- The part of a statement before its condition. -/
def head (statement : Statement) : Fragment :=
  let table : Piece := .name statement.table.name
  match statement.action with
  | .select =>
    .word .select :: .blank :: (statement.projection.fragment
      ++ [.blank, .word .source, .blank, table])
  | .count =>
    [.word .select, .blank, .word .count, .mark .opening, .mark .star, .mark .closing, .blank,
      .word .called, .blank, .name "count", .blank, .word .source, .blank, table]
  -- Without columns there is nothing to list, and the row takes all its defaults.
  | .insert [] _ =>
    [.word .insert, .blank, .word .into, .blank, table, .blank, .word .byDefault, .blank,
      .word .values]
  | .insert columns rows =>
    [.word .insert, .blank, .word .into, .blank, table, .blank]
      ++ Fragment.tuple (columns.map fun column => [.name column])
      ++ [.blank, .word .values, .blank]
      ++ Fragment.join Fragment.commaBlank (rows.map (rowFragment statement.table columns))
  | .update assignments =>
    [.word .update, .blank, table, .blank, .word .assign, .blank]
      ++ Fragment.join Fragment.commaBlank (assignments.map (assignmentFragment statement.table))
  | .delete => [.word .delete, .blank, .word .source, .blank, table]

/-- The condition of a statement; an insertion has none. -/
def whereFragment (backend : Backend) (statement : Statement) : Fragment :=
  match statement.action, statement.filter.fragment? backend with
  -- What an insertion was restricted to is left unread.
  | .insert _ _, _ => []
  | _, some condition => [.blank, .word .filtered, .blank] ++ condition
  | _, none => []

/-- The order of the rows. -/
def orderFragment : List SortKey → Fragment
  -- Without keys there is no order at all.
  | [] => []
  | keys =>
    [.blank, .word .order, .blank, .word .ordering, .blank]
      ++ Fragment.join Fragment.commaBlank (keys.map SortKey.fragment)

/-- The cut of the rows. -/
def cutFragment : Option Page → Fragment
  -- Limit and offset are always written together.
  | none => []
  | some page => .blank :: pageFragment page.limit.toNat page.offset.toNat

/-- The part of a statement after its condition. -/
def tail (statement : Statement) : Fragment :=
  match statement.action with
  | .select => orderFragment statement.order ++ cutFragment statement.page
  -- A count is one row, so neither an order nor a cut applies to it.
  | .count => []
  | .insert _ _ | .update _ | .delete =>
    [.blank, .word .returning, .blank] ++ statement.projection.fragment

/-- The SQL of a statement. -/
def fragment (backend : Backend) (statement : Statement) : Fragment :=
  -- The three parts are what an action begins with, its condition, and what it ends with.
  statement.head ++ statement.whereFragment backend ++ statement.tail

/-- The SQL text of a statement and its values in the order of their placeholders. -/
def render (backend : Backend) (statement : Statement) : Rendering :=
  -- The places are counted over the whole statement.
  Fragment.render backend (statement.fragment backend)

end Statement

end RowFilter
