import RowFilter.Json.Basic
import RowFilter.Text.Basic

/-! Tables: a name, fields with declared kinds, and a primary key among the fields. -/

namespace RowFilter

/-- The declared kind of a field. -/
inductive Kind where
  | string
  | number
  | date
  | boolean
  | json
deriving DecidableEq

namespace Kind

/-- The name of a kind. -/
def name : Kind → String
  -- These are the names in descriptions and in messages.
  | .string => "string"
  | .number => "number"
  | .date => "date"
  | .boolean => "boolean"
  | .json => "json"

/-- All kinds. -/
def all : List Kind := [.string, .number, .date, .boolean, .json]

/-- Finds a kind by its name. -/
def ofName? (text : String) : Option Kind := all.find? (·.name == text)

end Kind

/-- A field of a table. -/
structure Field where
  name : String
  kind : Kind
deriving DecidableEq

/-- What keeps a description from being a table. -/
inductive TableError where
  | emptyName
  | missingPrimaryKey (table : String)
  | duplicateField (table field : String)
  | unknownPrimaryKey (table column : String)
deriving DecidableEq

/-- The name of what is wrong. -/
def TableError.name : TableError → String
  -- The names leave out which table it is.
  | .emptyName => "EmptyName"
  | .missingPrimaryKey _ => "MissingPrimaryKey"
  | .duplicateField _ _ => "DuplicateField"
  | .unknownPrimaryKey _ _ => "UnknownPrimaryKey"

/-- The wording of a table error. -/
def TableError.message : TableError → String
  -- The table is told by its name, except where that is what is missing.
  | .emptyName => "Table name must not be empty"
  | .missingPrimaryKey table =>
    s!"Table '{table}' must declare at least one primary key column"
  | .duplicateField table field => s!"Table '{table}' declares field '{field}' more than once"
  | .unknownPrimaryKey table column =>
    s!"Primary key column '{column}' is not a field of table '{table}'"

/-- Whether a text has no characters but blanks. -/
def isBlankText (text : String) : Bool := text.toList.all Text.isBlank

/-- A table: its fields are distinct, and its key is a non-empty list of them. -/
structure Table where
  name : String
  fields : List Field
  primaryKey : List String
  named : isBlankText name = false
  keyed : primaryKey ≠ []
  distinct : (fields.map Field.name).Nodup
  declared : ∀ column ∈ primaryKey, column ∈ fields.map Field.name

/-- The first text that occurs earlier in a list. -/
def firstRepeat? (seen : List String) : List String → Option String
  -- The second occurrence is what is found, and not the first one.
  | [] => none
  | text :: rest => if text ∈ seen then some text else firstRepeat? (text :: seen) rest

namespace Table

/-- Builds a table, or reports the first rule that its description breaks. -/
def build (name : String) (fields : List Field) (primaryKey : List String) :
    Except TableError Table :=
  -- The rules are checked in this order, and the proofs that they hold become parts of the table.
  let names := fields.map Field.name
  if named : isBlankText name = false then
    if keyed : primaryKey ≠ [] then
      if distinct : names.Nodup then
        if declared : ∀ column ∈ primaryKey, column ∈ names then
          .ok ⟨name, fields, primaryKey, named, keyed, distinct, declared⟩
        else
          let missing := primaryKey.find? fun column => column ∉ names
          .error (.unknownPrimaryKey name (missing.getD ""))
      else .error (.duplicateField name ((firstRepeat? [] names).getD ""))
    else .error (.missingPrimaryKey name)
  else .error .emptyName

/-- The names of the fields, in order. -/
def fieldNames (table : Table) : List String := table.fields.map Field.name

/-- The declared kind of a column, or none if the table does not describe it. -/
def kindOf? (table : Table) (column : String) : Option Kind :=
  -- The fields are distinct, so that the first one is the only one.
  (table.fields.find? (·.name == column)).map Field.kind

/-- Whether the table describes a column. -/
def hasField (table : Table) (column : String) : Bool := (table.kindOf? column).isSome

/-- The first column of the primary key, by which rows are identified and ordered. -/
def identityColumn (table : Table) : String := table.primaryKey.head table.keyed

/-- Books by their number, with one more field: the table of examples. -/
def booksWith (column : String) (kind : Kind) (other : "id" ≠ column) : Table where
  -- The other field is never the key, whatever its kind is.
  name := "books"
  fields := [⟨"id", .number⟩, ⟨column, kind⟩]
  primaryKey := ["id"]
  named := by decide
  keyed := by decide
  distinct := by simpa using other
  declared := by simp

/-- Books by their number, with their titles. -/
def books : Table := booksWith "title" .string (by decide)

/-- The JSON description of a table. -/
def toJson (table : Table) : Json :=
  -- The key is described by its names.
  .object
    [("name", .string table.name),
      ("fields", .array (table.fields.map fun field =>
        .object [("name", .string field.name), ("kind", .string field.kind.name)])),
      ("primary_key", .array (table.primaryKey.map .string))]

end Table

end RowFilter
