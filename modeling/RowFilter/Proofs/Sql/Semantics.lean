import RowFilter.Predicate.Truth
import RowFilter.Proofs.Sql.Formula

/-! The truth of formulas on a row, in the three-valued logic of SQL. -/

namespace RowFilter.Sql

/-- What a database makes of values that are present, for any type of values. -/
structure Semantics (Value : Type) where
  /-- The value of a bound parameter, which a database may take as missing. -/
  bound : Parameter → Option Value
  numeral : String → Value
  literal : String → Value
  cast : String → Value → Option Value
  call : String → Option Value → Option Value → Option Value
  relates : Comparison → Value → Value → Bool
  /-- Whether a value fits a pattern with an escape character. -/
  fits : Value → Value → Value → Bool
  one_ne_zero : relates .equal (numeral "1") (numeral "0") = false

/-- Texts that are compared by their spelling. -/
instance : Inhabited (Semantics String) where
  -- Whatever a statement asks for is answered somehow, so that truths can be computed.
  default :=
    { bound := fun | .text value => some value | .int value => some (toString value) | _ => none
      numeral := id
      literal := id
      cast := fun _ value => some value
      call := fun _ first _ => first
      relates := fun
        | .equal, left, right => left = right
        | .notEqual, left, right => left ≠ right
        | .greater, left, right => right < left
        | .greaterEqual, left, right => right ≤ left
        | .less, left, right => left < right
        | .lessEqual, left, right => left ≤ right
      fits := fun target pattern _ => target = pattern
      one_ne_zero := by decide }

variable {Value : Type}

/-- The value of an operand on a row; missing values stay missing when they are cast. -/
def Operand.evaluate (semantics : Semantics Value) (row : String → Option Value) :
    Operand → Option Value
  -- The bound values are the literals of the filter, and the row has those of its columns.
  | .column name => row name
  | .bound value => semantics.bound value
  | .numeral digits => some (semantics.numeral digits)
  | .literal content => some (semantics.literal content)
  | .cast operand type => (operand.evaluate semantics row).bind (semantics.cast type)
  | .call function first second =>
    semantics.call function (first.evaluate semantics row) (second.evaluate semantics row)

namespace Semantics

/-- The comparison of two values, unknown if one of them is missing. -/
def compared (semantics : Semantics Value) (comparison : Comparison) :
    Option Value → Option Value → Truth
  -- It takes both values to relate them.
  | some left, some right => .ofBool (semantics.relates comparison left right)
  | _, _ => .unknown

/-- The test of a value against a pattern, unknown if one of the values is missing. -/
def fitted (semantics : Semantics Value) : Option Value → Option Value → Option Value → Truth
  -- It takes all three values, the mark that escapes among them.
  | some target, some pattern, some escape => .ofBool (semantics.fits target pattern escape)
  | _, _, _ => .unknown

end Semantics

/-- The truth of a test on a row: a range is two comparisons, and a list is one for each item. -/
def Test.truth (semantics : Semantics Value) (row : String → Option Value) : Test → Truth
  -- A test that is negated is unknown where the test is.
  | .compare left comparison right =>
    semantics.compared comparison (left.evaluate semantics row) (right.evaluate semantics row)
  | .isNull target negated =>
    (Truth.ofBool (target.evaluate semantics row).isNone).negateIf negated
  | .among target items negated =>
    (Truth.any (items.map fun item => semantics.compared .equal (target.evaluate semantics row)
      (item.evaluate semantics row))).negateIf negated
  | .between target low high negated =>
    let value := target.evaluate semantics row
    ((semantics.compared .greaterEqual value (low.evaluate semantics row)).and
      (semantics.compared .lessEqual value (high.evaluate semantics row))).negateIf negated
  | .like target pattern escape negated =>
    (semantics.fitted (target.evaluate semantics row) (pattern.evaluate semantics row)
      (escape.evaluate semantics row)).negateIf negated

namespace Formula

mutual

/-- The truth of a formula on a row. -/
def truth (semantics : Semantics Value) (row : String → Option Value) : Formula → Truth
  -- By the connectives, which join truths as the tests yield them.
  | .test own => own.truth semantics row
  | .not part => (truth semantics row part).not
  | .all parts => .all (truths semantics row parts)
  | .any parts => .any (truths semantics row parts)

/-- The truth of each of several formulas. -/
def truths (semantics : Semantics Value) (row : String → Option Value) :
    List Formula → List Truth
  -- The recursion goes through the parts, which are a list of formulas.
  | [] => []
  | part :: rest => truth semantics row part :: truths semantics row rest

end

/-- The truth of several formulas, one by one. -/
theorem truths_eq (semantics : Semantics Value) (row : String → Option Value)
    (parts : List Formula) : truths semantics row parts = parts.map (truth semantics row) := by
  -- The walk over the parts is that of a map.
  induction parts with
  | nil => rfl
  | cons part rest ih => simp [truths, ih]

end Formula

/-- A bound value as it is compared: with a cast if it is shown as a point in time. -/
def boundOperand (backend : Backend) (value : Parameter) (temporal : Bool) : Operand :=
  -- What is not shown as a point in time is compared as it is bound.
  if showsTime backend value temporal then .cast (.bound value) timeWord else .bound value

/-- A column as it is presented to a pattern. -/
def castOperand (backend : Backend) (column : String) : Cast → Operand
  -- A date is presented by a function of its backend, and a text by a cast.
  | .none => .column column
  | .text => .cast (.column column) "TEXT"
  | .dateText =>
    match backend with
    | .sqlite => .call "strftime" (.literal Literal.timeFormat.content) (.column column)
    | .postgres => .call "to_char" (.column column) (.literal Literal.charsFormat.content)

/-- What the tests of single columns yield on a row. -/
def Semantics.tests (semantics : Semantics Value) (backend : Backend)
    (row : String → Option Value) : RowTests where
  -- The row is looked up column by column, and what is bound is the same for every row.
  compare column comparison value temporal :=
    semantics.compared comparison (row column)
      ((boundOperand backend value temporal).evaluate semantics row)
  isNull column := (row column).isNone
  like column cast pattern :=
    semantics.fitted ((castOperand backend column cast).evaluate semantics row)
      (semantics.bound (.text pattern)) (some (semantics.literal Literal.escape.content))

end RowFilter.Sql
