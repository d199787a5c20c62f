import RowFilter.Predicate
import RowFilter.Sql.Piece

/-! Conditions as SQL: groups without constraining parts vanish, and lone parts lose their group. -/

namespace RowFilter

/-- The mark of a comparison. -/
def Comparison.mark : Comparison → Sql.Mark
  -- The marks are the same in both backends.
  | .equal => .equal
  | .notEqual => .notEqual
  | .greater => .greater
  | .greaterEqual => .greaterEqual
  | .less => .less
  | .lessEqual => .lessEqual

namespace Predicate

open Sql

/-- A test that fails on every row. -/
def neverFragment : Fragment := [.numeral 1, .blank, .mark .equal, .blank, .numeral 0]

/-- A column as it is presented to a pattern. -/
def castFragment (backend : Backend) (column : String) : Cast → Fragment
  -- A column of texts needs no wrapper.
  | .none => [.name column]
  | .text => (castParts backend).1 ++ .name column :: (castParts backend).2
  | .dateText => (dateParts backend).1 ++ .name column :: (dateParts backend).2

/-- The parts of a group that constrain rows, joined by a word; one part stands without the group. -/
def groupFragment? (joiner : Word) : List Fragment → Option Fragment
  -- A part that constrains nothing is no longer among the parts.
  | [] => none
  | [part] => some part
  | parts =>
    some (.mark .opening
      :: (Fragment.join [.blank, .word joiner, .blank] parts ++ [.mark .closing]))

mutual

/-- The SQL of a condition, or none if it places no constraint. -/
def fragment? (backend : Backend) : Predicate → Option Fragment
  | .all parts => groupFragment? .conjunction (fragments backend parts)
  | .any parts => groupFragment? .disjunction (fragments backend parts)
  | .compare column comparison value temporal =>
    some [.name column, .blank, .mark comparison.mark, .blank, .value value temporal]
  | .isNull column negated =>
    some (.name column :: .blank :: .word .test :: .blank :: (negation negated ++ [.word .null]))
  | .oneOf column values negated temporal =>
    -- There is no list without items in SQL: nothing is in it, and nothing is excluded by it.
    if values.isEmpty then (if negated then none else some neverFragment)
    else
      some (.name column :: .blank :: (negation negated ++ .word .among :: .blank
        :: Fragment.tuple (values.map fun value => [.value value temporal])))
  | .between column low high negated temporal =>
    -- This conjunction belongs to the range and joins no tests.
    some (.name column :: .blank :: (negation negated ++
      [.word .between, .blank, .value low temporal, .blank, .word .conjunction, .blank,
        .value high temporal]))
  | .like column pattern negated cast =>
    some (castFragment backend column cast ++ likeOpening negated
      ++ .value (.text pattern) false :: likeClosing)
  | .never => some neverFragment

/-- The SQL of the parts that constrain rows. -/
def fragments (backend : Backend) : List Predicate → List Fragment
  | [] => []
  -- A part without SQL is dropped here, before the words that join are put in.
  | part :: rest => (fragment? backend part).toList ++ fragments backend rest

end

end Predicate

end RowFilter
