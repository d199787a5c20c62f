import RowFilter.Sql.Parameter

/-! Conditions on rows, independent of any backend. -/

namespace RowFilter

/-- How a column is compared with a value. -/
inductive Comparison where
  | equal
  | notEqual
  | greater
  | greaterEqual
  | less
  | lessEqual
deriving DecidableEq

/-- How a column is presented to a pattern. -/
inductive Cast where
  /-- As it is. -/
  | none
  /-- Turned into text. -/
  | text
  /-- Written as a date with its time. -/
  | dateText
deriving DecidableEq

/-- A condition on rows. -/
inductive Predicate where
  | all (parts : List Predicate)
  | any (parts : List Predicate)
  | compare (column : String) (comparison : Comparison) (value : Parameter) (temporal : Bool)
  | isNull (column : String) (negated : Bool)
  | oneOf (column : String) (values : List Parameter) (negated temporal : Bool)
  | between (column : String) (low high : Parameter) (negated temporal : Bool)
  | like (column : String) (pattern : String) (negated : Bool) (cast : Cast)
  /-- Matches no row. -/
  | never
deriving Inhabited

namespace Predicate

/-- The condition that every row meets. -/
def anything : Predicate := .all []

mutual

/-- Whether a condition places no constraint on rows. -/
def isEmpty : Predicate → Bool
  -- A choice constrains rows as soon as one of its parts does, since an empty part is left out.
  | .all parts => allEmpty parts
  | .any parts => allEmpty parts
  | .oneOf _ values negated _ => negated && values.isEmpty
  | _ => false

/-- Whether no part of a group places a constraint. -/
def allEmpty : List Predicate → Bool
  -- The parts are nested predicates, for which the recursion goes through the list.
  | [] => true
  | part :: rest => part.isEmpty && allEmpty rest

end

/-- Both conditions together; a conjunction takes the other one in as its last parts. -/
def and (first second : Predicate) : Predicate :=
  -- What constrains nothing does not become a part.
  if second.isEmpty then first
  else if first.isEmpty then second
  else
    match first, second with
    | .all parts, .all more => .all (parts ++ more)
    | .all parts, other => .all (parts ++ [other])
    | one, other => .all [one, other]

end Predicate

end RowFilter
