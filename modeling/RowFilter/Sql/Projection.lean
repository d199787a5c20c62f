import RowFilter.Sql.Piece
import RowFilter.Table

/-! The columns that a statement gives back, and the order of its rows. -/

namespace RowFilter

/-- A choice of columns. -/
inductive Projection where
  | all
  | columns (names : List String)
deriving DecidableEq

namespace Projection

/-- The columns that a projection covers in a table. -/
def resolve (table : Table) : Projection → List String
  -- The choice is taken as it is, even where a column is not in the table.
  | .all => table.fieldNames
  | .columns names => names

/-- The JSON spelling of a projection. -/
def toJson : Projection → Json
  -- A choice of one column is spelled as a list too.
  | .all => .string "*"
  | .columns names => .array (names.map .string)

/-- A list that names the star covers all columns. -/
def ofNames (names : List String) : Projection :=
  -- Whatever else the list names, the star covers it.
  if "*" ∈ names then .all else .columns names

/-- One name, where the star covers all columns. -/
def ofName (name : String) : Projection :=
  -- A column of that name cannot be chosen.
  if name = "*" then .all else .columns [name]

/-- The list of columns in SQL; an empty choice covers everything. -/
def fragment : Projection → Sql.Fragment
  -- There is no list of no columns in SQL.
  | .all => [.mark .star]
  | .columns [] => [.mark .star]
  | .columns names => Sql.Fragment.join Sql.Fragment.commaBlank (names.map fun name => [.name name])

end Projection

/-- The direction of a sort key. -/
inductive Direction where
  | ascending
  | descending
deriving DecidableEq

namespace Direction

/-- The short name of a direction. -/
def name : Direction → String
  -- This is how requests name a direction.
  | .ascending => "asc"
  | .descending => "desc"

/-- The word of a direction. -/
def word : Direction → Sql.Word
  -- This is how statements name a direction.
  | .ascending => .ascending
  | .descending => .descending

end Direction

/-- A column by which rows are ordered. -/
structure SortKey where
  column : String
  direction : Direction
deriving DecidableEq

namespace SortKey

/-- The JSON spelling of a sort key. -/
def toJson (key : SortKey) : Json :=
  -- The direction is always spelled out.
  .object [("column", .string key.column), ("direction", .string key.direction.name)]

/-- A sort key in SQL. -/
def fragment (key : SortKey) : Sql.Fragment :=
  -- The direction is always written, also where it is that of the default.
  [.name key.column, .blank, .word key.direction.word]

end SortKey

end RowFilter
