import RowFilter.Engine.Relation
import RowFilter.Engine.TimeText
import RowFilter.Predicate.Truth
import RowFilter.Sql.LikePattern

/-! Conditions on stored rows. -/

namespace RowFilter

/-- Whether a comparison holds for two values in a given order. -/
def Comparison.holds : Comparison → Ordering → Bool
  -- Each comparison is a set of orders.
  | .equal, order => order = .eq
  | .notEqual, order => order ≠ .eq
  | .greater, order => order = .gt
  | .greaterEqual, order => order ≠ .lt
  | .less, order => order = .lt
  | .lessEqual, order => order ≠ .gt

namespace Engine

/-- Patterns tell letters apart by their case only beyond ASCII. -/
def sameLetter (left right : Char) : Bool := left.toLower = right.toLower

/-- The characters of a cell as it is presented to a pattern. -/
def castChars? (cast : Cast) (cell : Cell) : Option (List Char) :=
  -- A cast to text changes nothing that the characters show.
  match cast with
  | .none | .text => cell.chars?
  | .dateText => TimeText.ofCell? cell

/-- Patterns see a text only up to its first zero character. -/
def untilZero (text : List Char) : List Char := text.takeWhile fun c => c.toNat ≠ 0

/-- The comparison of two cells, which is unknown if one of them is null. -/
def compareCells (comparison : Comparison) (left right : Cell) : Truth :=
  -- Null compares with nothing, not even with itself.
  match left, right with
  | .null, _ | _, .null => .unknown
  | _, _ => .ofBool (comparison.holds (left.order right))

/-- The test of a cell against a pattern, which is unknown if there is no text. -/
def likeCell (cast : Cast) (cell : Cell) (pattern : String) : Truth :=
  -- Pattern and text end at the first zero character, and letters match without regard to case.
  match castChars? cast cell with
  | some text => .ofBool (isLike sameLetter (untilZero pattern.toList) (untilZero text))
  | none => .unknown

/-- The tests of the columns of a stored row. -/
def Relation.tests (relation : Relation) (number : Int) (row : Row) : RowTests where
  -- A name that leads to no column has been refused before any row is tested.
  compare := fun column comparison value _ =>
    match relation.locate? column with
    | some slot =>
      compareCells comparison (slot.cell number row) (slot.affinity.present (.ofParameter value))
    | none => .unknown
  isNull := fun column =>
    match relation.locate? column with
    | some slot => slot.cell number row = .null
    | none => true
  like := fun column cast pattern =>
    match relation.locate? column with
    | some slot => likeCell cast (slot.cell number row) pattern
    | none => .unknown

/-- The height that a test of a column has as an expression, where a side may be wrapped. -/
def leafHeight (negated wrapped : Bool) : Nat :=
  -- A test is one level above its operands.
  2 + (if negated then 1 else 0) + (if wrapped then 1 else 0)

/-- The height of a chain of parts, which are joined from the left. -/
def chainHeight : List Nat → Nat
  -- A chain leans to the left, so that its first part lies deepest.
  | [] => 0
  | first :: rest => rest.foldl (fun height part => max height part + 1) first

mutual

/-- The height of a condition as an expression, or none if it places no constraint. -/
def height? : Predicate → Option Nat
  -- A part that places no constraint is not written, and adds no height.
  | .all parts | .any parts =>
    match heights parts with
    | [] => none
    | values => some (chainHeight values)
  | .compare _ _ _ _ => some (leafHeight false false)
  | .isNull _ _ => some (leafHeight false false)
  | .oneOf _ values negated _ =>
    if values.isEmpty then (if negated then none else some (leafHeight false false))
    else some (leafHeight negated (values.length = 1))
  | .between _ _ _ negated _ => some (leafHeight negated false)
  | .like _ _ negated cast => some (leafHeight negated (cast ≠ .none))
  | .never => some (leafHeight false false)

/-- The heights of the parts that place a constraint. -/
def heights : List Predicate → List Nat
  -- The parts are nested predicates, for which the recursion goes through the list.
  | [] => []
  | part :: rest => (height? part).toList ++ heights rest

end

/-- The greatest height that an expression may have. -/
def maxHeight : Nat := 1000

end Engine

end RowFilter
