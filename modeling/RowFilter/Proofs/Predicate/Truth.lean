import Mathlib.Data.List.Forall2
import RowFilter.Proofs.Predicate.Basic

/-! Which conditions hold on a row, and which of them place no constraint. -/

namespace RowFilter

namespace Truth

/-- The conjunction of one truth value is that value. -/
@[simp] theorem all_singleton (value : Truth) : all [value] = value := by cases value <;> rfl

/-- The disjunction of one truth value is that value. -/
@[simp] theorem any_singleton (value : Truth) : any [value] = value := by cases value <;> rfl

/-- Whether a truth value is that of a test that holds. -/
def holds (value : Truth) : Bool := value = .yes

/-- What is true holds. -/
@[simp] theorem holds_yes : yes.holds = true := rfl

/-- What is false does not hold. -/
@[simp] theorem holds_no : no.holds = false := rfl

/-- What is unknown does not hold. -/
@[simp] theorem holds_unknown : unknown.holds = false := rfl

/-- A decided test holds as it was decided. -/
@[simp] theorem holds_ofBool (decided : Bool) : (ofBool decided).holds = decided := by
  -- A decision is never the third truth value.
  cases decided <;> rfl

/-- A decided test is not unknown. -/
@[simp] theorem ofBool_ne_unknown (decided : Bool) : ofBool decided ≠ unknown := by
  -- By both decisions, neither of which is the third truth value.
  cases decided <;> decide

/-- A truth value adds nothing to itself. -/
@[simp] theorem and_self (value : Truth) : value.and value = value := by cases value <;> rfl

/-- Decided tests are decided together. -/
@[simp] theorem ofBool_and (left right : Bool) :
    (ofBool left).and (ofBool right) = ofBool (left && right) := by
  -- Without the third truth value the connective is the usual one.
  cases left <;> cases right <;> rfl

/-- Decided tests are decided by any of them. -/
@[simp] theorem ofBool_or (left right : Bool) :
    (ofBool left).or (ofBool right) = ofBool (left || right) := by
  -- Without the third truth value the connective is the usual one.
  cases left <;> cases right <;> rfl

/-- The disjunction of decided tests is decided. -/
theorem any_ofBool (decided : List Bool) : any (decided.map ofBool) = ofBool (decided.any id) := by
  -- Each step joins two decided values.
  induction decided with
  | nil => rfl
  | cons first rest ih =>
    show (ofBool first).or (any (rest.map ofBool)) = _
    simp [ih]

/-- The disjunction of unknown tests is unknown, unless there are none. -/
theorem any_unknown {values : List Truth} (listed : values ≠ [])
    (same : ∀ value ∈ values, value = unknown) : any values = unknown := by
  -- The empty disjunction fails, so the last value is a case of its own.
  induction values with
  | nil => exact absurd rfl listed
  | cons first rest ih =>
    obtain rfl := same first (by simp)
    cases rest with
    | nil => rfl
    | cons second rest =>
      show unknown.or (any (second :: rest)) = unknown
      rw [ih (by simp) fun value member => same value (by simp [member])]
      rfl

/-- A negated test holds exactly if the test is decided and does not hold. -/
@[simp] theorem holds_negateIf (value : Truth) (negated : Bool) :
    (value.negateIf negated).holds = (value ≠ .unknown && (value.holds != negated)) := by
  -- What is unknown holds as little when it is negated.
  cases value <;> cases negated <;> rfl

/-- A conjunction holds exactly if each part holds. -/
@[simp] theorem holds_and (left right : Truth) :
    (left.and right).holds = (left.holds && right.holds) := by
  -- By all pairs of truth values, of which only two that hold make the conjunction hold.
  cases left <;> cases right <;> rfl

/-- A disjunction holds exactly if one part holds. -/
@[simp] theorem holds_or (left right : Truth) :
    (left.or right).holds = (left.holds || right.holds) := by
  -- By all pairs of truth values; one that is unknown holds no more than one that fails.
  cases left <;> cases right <;> rfl

/-- A conjunction of a list holds exactly if each part holds. -/
theorem holds_all (values : List Truth) : (all values).holds = values.all holds := by
  -- What is unknown and what fails are alike in not holding.
  induction values with
  | nil => rfl
  | cons value rest ih =>
    show (value.and (all rest)).holds = _
    simp [ih]

/-- A disjunction of a list holds exactly if one part holds. -/
theorem holds_any (values : List Truth) : (any values).holds = values.any holds := by
  -- An unknown part does not keep another one from holding.
  induction values with
  | nil => rfl
  | cons value rest ih =>
    show (value.or (any rest)).holds = _
    simp [ih]

end Truth

namespace Predicate

variable {row : RowTests}

/-- A condition places no constraint exactly if it has no truth value. -/
theorem isEmpty_eq (row : RowTests) (predicate : Predicate) :
    predicate.isEmpty = (predicate.truth? row).isNone := by
  -- A group has no truth value exactly if none of its parts has one.
  have grouped : ∀ parts : List Predicate,
      (∀ part ∈ parts, part.isEmpty = (part.truth? row).isNone) →
      allEmpty parts = (truths row parts).isEmpty := by
    intro parts held
    rw [allEmpty_eq, truths_eq]
    induction parts with
    | nil => rfl
    | cons part rest ih =>
      have own := held part (by simp)
      have others := ih fun other member => held other (by simp [member])
      cases value : part.truth? row <;> simp [own, value, others]
  induction predicate with
  | all parts ih =>
    rw [isEmpty, grouped parts ih, truth?]
    cases truths row parts <;> rfl
  | any parts ih =>
    rw [isEmpty, grouped parts ih, truth?]
    cases truths row parts <;> rfl
  | oneOf column values negated temporal =>
    cases values <;> cases negated <;> rfl
  | _ => rfl

/-- A condition selects a row exactly if it holds on it or places no constraint. -/
theorem selects_eq (predicate : Predicate) :
    predicate.selects row = ((predicate.truth? row).map Truth.holds).getD true := by
  -- Both sides look at the truth value alone.
  rw [selects]
  cases predicate.truth? row <;> rfl

/-- A disjunction selects a row exactly if one constraining part holds on it, or there is none. -/
theorem selects_any (parts : List Predicate) :
    (Predicate.any parts).selects row
      = ((parts.filterMap (truth? row)).isEmpty
        || (parts.filterMap (truth? row)).any Truth.holds) := by
  -- Parts without a truth value are left out, and nothing may be left.
  rw [selects, truth?, truths_eq]
  cases parts.filterMap (truth? row) with
  | nil => rfl
  | cons value rest => exact Truth.holds_any (value :: rest)

/-- A condition that constrains rows, and holds on a row exactly as told. -/
def Says (row : RowTests) (predicate : Predicate) (holds : Bool) : Prop :=
  -- What does not constrain rows has no truth, and so nothing is said by it.
  ∃ value, predicate.truth? row = some value ∧ value.holds = holds

/-- Conditions that hold as told have truth values that hold as told. -/
theorem holds_filterMap {predicates : List Predicate} {meanings : List Bool}
    (said : List.Forall₂ (Says row) predicates meanings) :
    (predicates.filterMap (truth? row)).map Truth.holds = meanings := by
  -- Each of the conditions has a truth value, so none of them is skipped.
  induction said with
  | nil => rfl
  | cons own others ih =>
    obtain ⟨value, known, same⟩ := own
    simp [known, same, ih]

/-- A disjunction over a list that is not empty holds as one of its parts is told to. -/
theorem says_any {α : Type} {condition : α → Predicate} {meaning : α → Bool} {items : List α}
    (listed : items ≠ []) (said : ∀ item ∈ items, Says row (condition item) (meaning item)) :
    Says row (.any (items.map condition)) (items.any meaning) := by
  -- The parts hold as told, and since there is one the disjunction has a truth value.
  have told := holds_filterMap (List.forall₂_map_left_iff.mpr <| List.forall₂_map_right_iff.mpr <|
    List.forall₂_same.mpr said)
  refine ⟨.any ((items.map condition).filterMap (truth? row)), ?_, ?_⟩
  · rw [truth?, truths_eq]
    cases values : (items.map condition).filterMap (truth? row) with
    | nil => simp_all
    | cons value rest => rfl
  · rw [Truth.holds_any]
    simpa [List.any_map, Function.comp_def] using congrArg (List.any · id) told

/-- What never holds selects nothing. -/
theorem says_never : Says row .never false := ⟨.no, rfl, rfl⟩

/-- Conditions that may be absent are listed as what is said by those that are there. -/
theorem forall₂_toList {result : Option Predicate} {meaning : Option Bool}
    (related : Option.Rel (Says row) result meaning) :
    List.Forall₂ (Says row) result.toList meaning.toList := by
  -- Both are there or neither is.
  cases related with
  | some said => exact .cons said .nil
  | none => exact .nil

end Predicate

end RowFilter
