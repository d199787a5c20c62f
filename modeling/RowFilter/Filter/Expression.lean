import RowFilter.Filter.Operator
import RowFilter.Scalar
import RowFilter.Sql.Projection

/-! Filters: clauses of conditions on fields, and searches over several fields. -/

namespace RowFilter

/-- What an operator is given. -/
inductive Operand where
  | scalar (value : Scalar)
  | list (items : List Scalar)
  | range (low high : Scalar)
  | flag (value : Bool)
deriving DecidableEq

/-- The condition on one field. -/
inductive Condition where
  /-- Equal to a literal, where null stands for a missing value. -/
  | equals (value : Scalar)
  | operators (entries : List (Operator × Operand))
  | unconstrained
deriving DecidableEq

/-- A search for one value in several fields. -/
inductive Search where
  /-- Looks for a pattern in every field. -/
  | everywhere (value : Scalar)
  /-- Looks in chosen fields; a number has to match exactly. -/
  | within (fields : Projection) (value : Scalar)
deriving DecidableEq

/-- One key of a clause. -/
inductive Entry where
  | field (name : String) (condition : Condition)
  | search (term : Search)
deriving DecidableEq

/-- Entries that all have to hold, in order. -/
abbrev Clause := List Entry

/-- A clause, or a choice between clauses. -/
inductive Filter where
  | clause (entries : Clause)
  | anyOf (clauses : List Clause)
deriving DecidableEq

/-- The key of a search in a clause. -/
def searchKey : String := "$q"

namespace Clause

/-- The clause without entries. -/
def empty : Clause := []

/-- Adds a condition on a field. -/
def field (clause : Clause) (name : String) (condition : Condition) : Clause :=
  -- What is added later stands later, and a field may come again.
  clause ++ [.field name condition]

/-- Adds equality with a literal. -/
def equals (clause : Clause) (name : String) (value : Scalar) : Clause :=
  -- Null is a literal as well, and asks for rows without a value.
  clause.field name (.equals value)

/-- Adds one operator. -/
def operator (clause : Clause) (name : String) (operator : Operator) (operand : Operand) :
    Clause :=
  -- Each call makes an entry of its own, even for a field that has one.
  clause.field name (.operators [(operator, operand)])

/-- Adds a search. -/
def search (clause : Clause) (term : Search) : Clause := clause ++ [.search term]

end Clause

end RowFilter
