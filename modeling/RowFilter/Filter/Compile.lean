import RowFilter.Calendar.DateText
import RowFilter.Filter.Error
import RowFilter.Filter.Expression
import RowFilter.Sql.LikePattern
import RowFilter.Sql.Statement

/-! Filters as conditions on the rows of a table. -/

namespace RowFilter

/-- Whether a literal is a point in time for a column: any text for a date, and a text that reads as
a date for a column that the table does not describe. -/
def Scalar.isTemporal (kind : Option Kind) : Scalar → Bool
  -- Numbers are never taken for points in time, even where a date is declared.
  | .text content =>
    match kind with
    | some .date => true
    | some _ => false
    | none => DateText.looksLikeDate content
  | _ => false

namespace Predicate

/-- A comparison, which null never passes. -/
def comparing (column : String) (comparison : Comparison) (value : Scalar) (kind : Option Kind) :
    Predicate :=
  -- Only null binds nothing.
  match value.toParameter? with
  | some parameter => .compare column comparison parameter (value.isTemporal kind)
  | none => .never

/-- How a column is searched: the declared kind decides, and for want of one the text does. -/
def searchCast (kind : Option Kind) (dateText : Option String) : Cast :=
  -- A declared kind is trusted: a text field is not searched as dates, whatever the text looks
  -- like.
  match kind with
  | some .date => .dateText
  | some .string => .none
  | some _ => .text
  | none => if dateText.isSome then .dateText else .none

/-- A search for a text in a column, where dates are searched by their canonical form. -/
def containing (column text : String) (negated : Bool) (kind : Option Kind) : Predicate :=
  -- A text that reads as no date is looked for as it stands, also among dates.
  let dateText := DateText.canonical? text
  let cast := searchCast kind dateText
  let needle := if cast = .dateText then dateText.getD text else text
  .like column (containsPattern needle) negated cast

end Predicate

namespace Operator

/-- The comparison of an operator that compares. -/
def comparison : Operator → Comparison
  -- Equality is also how the items of a list are compared.
  | .notEqual => .notEqual
  | .less => .less
  | .lessEqual => .lessEqual
  | .greater => .greater
  | .greaterEqual => .greaterEqual
  | _ => .equal

/-- The error for an operand that is not of the shape of its operator. -/
def mismatch (operator : Operator) (column : String) : FilterError :=
  -- The shape is told, but not what was found in its place.
  .invalidOperand column operator.symbol
    s!"operand does not match the {operator.shape.title} shape"

/-- The condition of a comparison, where equality with null asks for a missing value. -/
def applyScalar (operator : Operator) (column : String) (value : Scalar) (kind : Option Kind) :
    Predicate :=
  match operator, value with
  | .equal, .null => .isNull column false
  | .notEqual, .null => .isNull column true
  -- Order is not defined for null, so that any other comparison with it fails.
  | _, _ => .comparing column operator.comparison value kind

/-- The condition of a list; without values nothing is in it, and nothing is excluded by it. -/
def applyList (column : String) (items : List Scalar) (negated : Bool) (kind : Option Kind) :
    Option Predicate :=
  -- Missing items are dropped, and one point in time has all others read as such.
  match items.filterMap Scalar.toParameter? with
  | [] => if negated then none else some .never
  | values => some (.oneOf column values negated (items.any (·.isTemporal kind)))

/-- The condition of a range; no value lies within a missing bound. -/
def applyRange (column : String) (low high : Scalar) (negated : Bool) (kind : Option Kind) :
    Predicate :=
  -- The range is about time as soon as one of its bounds is.
  match low.toParameter?, high.toParameter? with
  | some first, some last =>
    .between column first last negated (low.isTemporal kind || high.isTemporal kind)
  | _, _ => .never

/-- The condition of a pattern, which has to be a text or a number. -/
def applyPattern (operator : Operator) (column : String) (value : Scalar) (negated : Bool)
    (kind : Option Kind) : Except FilterError Predicate :=
  -- Truth values and null have no text to look for.
  match value.patternText? with
  | some text => .ok (.containing column text negated kind)
  | none => .error (.invalidOperand column operator.symbol "expected a string or number pattern")

/-- The condition of an operator on a column of a kind, or none if it places no condition. -/
def apply (operator : Operator) (column : String) (operand : Operand) (kind : Option Kind) :
    Except FilterError (Option Predicate) :=
  -- Which of two opposite operators it is decides the negation, once their shape is settled.
  match operator.shape, operand with
  | .scalar, .scalar value => .ok (some (operator.applyScalar column value kind))
  | .list, .list items => .ok (applyList column items (operator = .noneOf) kind)
  | .range, .range low high =>
    .ok (some (applyRange column low high (operator = .notBetween) kind))
  | .pattern, .scalar value =>
    (operator.applyPattern column value (operator = .notLike) kind).map some
  | .flag, .flag wanted => .ok (some (.isNull column (!wanted)))
  | _, _ => .error (operator.mismatch column)

end Operator

namespace Condition

/-- The conditions of all operators on a field. -/
def compileOperators (field : String) (kind : Option Kind) :
    List (Operator × Operand) → Except FilterError (List Predicate)
  -- The first operator that fails is the one that is reported.
  | [] => .ok []
  | (operator, operand) :: rest => do
    let first ← operator.apply field operand kind
    let others ← compileOperators field kind rest
    return first.toList ++ others

/-- The conditions on a field of a table. -/
def compile (table : Table) (field : String) : Condition → Except FilterError (List Predicate)
  -- A bare literal is compared as the operator of equality compares it.
  | .equals value => compileOperators field (table.kindOf? field) [(.equal, .scalar value)]
  | .operators entries => compileOperators field (table.kindOf? field) entries
  | .unconstrained => .ok []

end Condition

namespace Search

/-- The text that a search everywhere looks for. -/
def textOf : Scalar → String
  -- Unlike a pattern, a search everywhere takes truth values as well.
  | .bool value => if value then "true" else "false"
  | value => value.patternText?.getD ""

/-- The condition of a search, or none if there is nothing to look for. -/
def compile (table : Table) : Search → Except FilterError (Option Predicate)
  | .everywhere value =>
    if value.isTruthy then
      .ok (some (.any (table.fields.map fun field =>
        .containing field.name (textOf value) false (some field.kind))))
    else .ok none
  | .within fields value =>
    let columns := fields.resolve table
    match value with
    | .text text =>
      if text = "" then .ok none
      else
        .ok (some (.any (columns.map fun column =>
          .containing column text false (table.kindOf? column))))
    -- Numbers are compared as they are, whatever the kind of the column.
    | .int number =>
      .ok (some (.any (columns.map fun column => .compare column .equal (.int number) false)))
    | .float number =>
      .ok (some (.any (columns.map fun column => .compare column .equal (.float number) false)))
    | .null | .bool _ => .error (.invalidSearch notSearchable)

end Search

namespace Clause

/-- The conditions of one entry. -/
def compileEntry (table : Table) : Entry → Except FilterError (List Predicate)
  -- A search is one condition at most, and none if it looks for nothing.
  | .field name condition => condition.compile table name
  | .search term => (term.compile table).map Option.toList

/-- The conditions of all entries of a clause, in order. -/
def compileEntries (table : Table) : Clause → Except FilterError (List Predicate)
  -- The entries are compiled in the order in which they were given.
  | [] => .ok []
  | entry :: rest => do
    let first ← compileEntry table entry
    let others ← compileEntries table rest
    return first ++ others

/-- The condition of a clause: all of its entries. -/
def compile (table : Table) (clause : Clause) : Except FilterError Predicate :=
  -- A clause keeps the parts that place no condition, which the text leaves out.
  (compileEntries table clause).map .all

end Clause

namespace Filter

/-- The condition of a filter; a clause without conditions does not widen a choice. -/
def compile (table : Table) : Filter → Except FilterError Predicate
  | .clause entries => Clause.compile table entries
  | .anyOf clauses => do
    let branches ← clauses.mapM (Clause.compile table)
    -- An empty branch would select every row, and a choice of no branches selects all of them.
    return .any (branches.filter fun branch => !branch.isEmpty)

end Filter

namespace Statement

/-- Adds the condition of a filter to a statement. -/
def applyFilter (statement : Statement) (filter : Filter) : Except FilterError Statement := do
  -- A statement without condition is left as it is, so that it has no WHERE either.
  let predicate ← filter.compile statement.table
  return if predicate.isEmpty then statement else statement.restrict predicate

end Statement

end RowFilter
