import RowFilter.Predicate

/-! The truth of a condition on one row, in the three-valued logic of SQL. -/

namespace RowFilter

/-- A truth value; a test of a missing value is unknown. -/
inductive Truth where
  | yes
  | no
  | unknown
deriving DecidableEq

namespace Truth

/-- The truth value of a decided test. -/
def ofBool (holds : Bool) : Truth := if holds then .yes else .no

/-- What is unknown stays unknown when it is negated. -/
def not : Truth → Truth
  | .yes => .no
  | .no => .yes
  | .unknown => .unknown

/-- A conjunction fails as soon as one part fails. -/
def and : Truth → Truth → Truth
  -- A failure wins even over what is unknown.
  | .no, _ | _, .no => .no
  | .yes, .yes => .yes
  | _, _ => .unknown

/-- A disjunction holds as soon as one part holds. -/
def or : Truth → Truth → Truth
  -- A success wins even over what is unknown.
  | .yes, _ | _, .yes => .yes
  | .no, .no => .no
  | _, _ => .unknown

/-- The conjunction of a list. -/
def all (values : List Truth) : Truth := values.foldr and .yes

/-- The disjunction of a list. -/
def any (values : List Truth) : Truth := values.foldr or .no

/-- Negates a truth value if asked to. -/
def negateIf (negated : Bool) (value : Truth) : Truth := if negated then value.not else value

end Truth

/-- What the tests of single columns yield on one row. -/
structure RowTests where
  compare : String → Comparison → Parameter → Bool → Truth
  isNull : String → Bool
  like : String → Cast → String → Truth

namespace Predicate

mutual

/-- The truth of a condition on a row, or none if it places no constraint. -/
def truth? (row : RowTests) : Predicate → Option Truth
  | .all parts =>
    match truths row parts with
    | [] => none
    | values => some (.all values)
  | .any parts =>
    match truths row parts with
    | [] => none
    | values => some (.any values)
  | .compare column comparison value temporal =>
    some (row.compare column comparison value temporal)
  | .isNull column negated => some ((Truth.ofBool (row.isNull column)).negateIf negated)
  | .oneOf column values negated temporal =>
    -- A disjunction over no values fails, but its negation places no constraint.
    if values.isEmpty && negated then none
    else
      some ((Truth.any (values.map fun value =>
        row.compare column .equal value temporal)).negateIf negated)
  | .between column low high negated temporal =>
    some (((row.compare column .greaterEqual low temporal).and
      (row.compare column .lessEqual high temporal)).negateIf negated)
  | .like column pattern negated cast => some ((row.like column cast pattern).negateIf negated)
  | .never => some .no

/-- The truth of the parts that place a constraint. -/
def truths (row : RowTests) : List Predicate → List Truth
  -- A part without truth is left out, so that it neither holds nor fails.
  | [] => []
  | part :: rest => (part.truth? row).toList ++ truths row rest

end

/-- A row is selected by a condition that holds on it or places no constraint. -/
def selects (row : RowTests) (predicate : Predicate) : Bool :=
  -- What is unknown does not select.
  match predicate.truth? row with
  | none => true
  | some value => value = .yes

mutual

/-- The columns that a condition tests, in order. -/
def columns : Predicate → List String
  | .all parts => allColumns parts
  | .any parts => allColumns parts
  | .compare column _ _ _ => [column]
  | .isNull column _ => [column]
  -- A list without values is written without its column.
  | .oneOf column values _ _ => if values.isEmpty then [] else [column]
  | .between column _ _ _ _ => [column]
  | .like column _ _ _ => [column]
  | .never => []

/-- The columns that the parts of a group test, in order. -/
def allColumns : List Predicate → List String
  -- A column comes once for each test of it.
  | [] => []
  | part :: rest => part.columns ++ allColumns rest

end

end Predicate

end RowFilter
