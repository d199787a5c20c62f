import RowFilter.Filter.Error
import RowFilter.Filter.Operator
import RowFilter.Schema.Basic

/-! The schemas of filters and requests for a table. -/

namespace RowFilter

/-- The schema of literals of a kind. -/
def Kind.schema : Kind → Schema
  -- Dates are texts to a schema, and a document is any literal but null.
  | .string | .date => .typed .string
  | .number => .typed .number
  | .boolean => .typed .boolean
  | .json => .typedAmong [.string, .number, .boolean]

/-- The schema of the operand of an operator on fields of a kind. -/
def Operator.operandSchema (kind : Kind) (operator : Operator) : Schema :=
  -- The schema says by its bounds what the shape says by its name.
  match operator.shape with
  | .scalar => kind.schema
  | .pattern => .typedAmong [.string, .number]
  | .flag => .typed .boolean
  | .list => .list kind.schema (some 1) none true
  | .range => .list kind.schema (some 2) (some 2) false

/-- The schema of the condition on fields of a kind. -/
def Kind.conditionSchema (kind : Kind) : Schema :=
  -- Each operator may be left open with null.
  let operators := (Operator.forKind kind).map fun operator =>
    (operator.symbol, Schema.anyOf [operator.operandSchema kind, .typed .null])
  .anyOf [kind.schema, .typed .null, .record operators []]

namespace Table

/-- The schema of a choice of the fields of a table. -/
def projectionSchema (table : Table) : Schema :=
  -- The star covers all fields, also as one name among others.
  .anyOf [.constant "*", .list (.among (table.fieldNames ++ ["*"])) (some 1) none false]

/-- The schema of a search in a table. -/
def searchSchema (table : Table) : Schema :=
  -- A literal looks everywhere, and an object says where and for what.
  .anyOf
    [.typedAmong [.string, .number, .boolean, .null],
      .record
        [("selectedFields", table.projectionSchema),
          ("value", .typedAmong [.string, .number])]
        ["selectedFields", "value"]]

/-- Puts the schema of the search key in, where a field of that name keeps its place. -/
def withSearch (search : Schema) : List (String × Schema) → List (String × Schema)
  -- A key stands once only, and what is said later counts.
  | [] => [("$q", search)]
  | (key, schema) :: rest =>
    if key = "$q" then (key, search) :: rest else (key, schema) :: withSearch search rest

/-- The schema of a clause on a table. -/
def clauseSchema (table : Table) : Schema :=
  -- Every field may be left out of a clause.
  let fields := table.fields.map fun field => (field.name, field.kind.conditionSchema)
  .record (withSearch table.searchSchema fields) []

/-- The schema of a filter on a table: a clause, or a limited number of clauses. -/
def filterSchema (table : Table) : Schema :=
  -- The number of clauses is limited, but there may be none of them.
  .anyOf [table.clauseSchema, .list table.clauseSchema none (some maxFilterClauses) false]

/-- The schema of a request for rows of a table. -/
def requestSchema (table : Table) : Schema :=
  -- A direction may be named by either key, in capital letters or not.
  let direction : Schema := .among ["asc", "desc", "ASC", "DESC"]
  let key : Schema :=
    .record [("column", .among table.fieldNames), ("direction", direction), ("order", direction)]
      ["column"]
  .record
    [("selectedFields", table.projectionSchema), ("filters", table.filterSchema),
      ("orderBy", .list key none none false), ("limit", .count), ("offset", .count)] []

end Table

end RowFilter
