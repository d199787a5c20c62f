import RowFilter.Proofs.Predicate.Basic

/-! Conditions in which no conjunction stands directly inside a conjunction. -/

namespace RowFilter.Predicate

/-- Whether a condition is a conjunction. -/
def isAll : Predicate → Bool
  -- A conjunction of a single part is one as well.
  | .all _ => true
  | _ => false

mutual

/-- Whether no conjunction stands directly inside a conjunction, at any depth of a condition. -/
def isFlat : Predicate → Bool
  -- A choice opens a new level, below which conjunctions may stand again.
  | .all parts => !parts.any isAll && allFlat parts
  | .any parts => allFlat parts
  | _ => true

/-- Whether all parts of a group are flat. -/
def allFlat : List Predicate → Bool
  -- The recursion goes through the parts, which are a list of conditions.
  | [] => true
  | part :: rest => part.isFlat && allFlat rest

end

/-- Whether a condition can be a part of a flat conjunction: it is flat, and no conjunction. -/
def isConjunct (predicate : Predicate) : Bool := !predicate.isAll && predicate.isFlat

/-- The parts that a condition has in a conjunction that opens it. -/
def opened : Predicate → List Predicate
  -- A conjunction lends its parts, and anything else is a part by itself.
  | .all parts => parts
  | other => [other]

/-- The parts of a group are flat one by one. -/
theorem allFlat_eq (parts : List Predicate) : allFlat parts = parts.all isFlat := by
  -- The walk over the parts asks the same of each of them.
  induction parts with
  | nil => rfl
  | cons part rest ih => simp [allFlat, ih]

/-- A conjunction is flat if its parts can be those of a flat one. -/
theorem isFlat_all (parts : List Predicate) :
    (Predicate.all parts).isFlat = parts.all isConjunct := by
  -- A part must be flat, and no conjunction itself.
  rw [isFlat, allFlat_eq]
  -- What is asked of the parts in two walks is asked of each of them.
  induction parts with
  | nil => rfl
  | cons part rest ih =>
    rw [List.any_cons, List.all_cons, List.all_cons, ← ih, isConjunct]
    cases part.isAll <;> cases part.isFlat <;> simp

/-- A choice is flat if its parts are. -/
theorem isFlat_any (parts : List Predicate) : (Predicate.any parts).isFlat = parts.all isFlat := by
  -- A choice may have conjunctions among its parts.
  rw [isFlat, allFlat_eq]

/-- A condition is flat if its parts can be those of a flat conjunction. -/
theorem isFlat_eq_opened (predicate : Predicate) :
    predicate.isFlat = predicate.opened.all isConjunct := by
  -- What is no conjunction is opened to itself, and is then asked to be flat and nothing more.
  cases predicate with
  | all parts => exact isFlat_all parts
  | _ => simp [opened, isConjunct, isAll]

/-- Conditions that are flat are opened to parts of a flat conjunction. -/
theorem all_isConjunct_flatMap {conditions : List Predicate}
    (flat : ∀ condition ∈ conditions, condition.isFlat = true) :
    (conditions.flatMap opened).all isConjunct = true := by
  -- Each condition is opened by itself.
  rw [List.all_flatMap, List.all_eq_true]
  intro condition listed
  rw [← isFlat_eq_opened, flat condition listed]

end RowFilter.Predicate
