import RowFilter.Proofs.Predicate.Truth
import RowFilter.Proofs.Sql.Semantics

/-! Conditions without the parts that do not constrain, and the formulas they stand for. -/

namespace RowFilter

open Sql

namespace Predicate

/-- A group without the parts that do not constrain; one part stands for itself. -/
def regroup? (group : List Predicate → Predicate) : List Predicate → Option Predicate
  -- A single part needs no group, and no part leaves none.
  | [] => none
  | [part] => some part
  | parts => some (group parts)

mutual

/-- A condition without what does not constrain rows, or none if nothing is left; a test against no
values at all is one that fails on every row. -/
def pruned? : Predicate → Option Predicate
  -- The parts go first, for a group may be left without any by that.
  | .all parts => regroup? .all (prunedParts parts)
  | .any parts => regroup? .any (prunedParts parts)
  | .oneOf column values negated temporal =>
    if values.isEmpty then (if negated then none else some .never)
    else some (.oneOf column values negated temporal)
  | other => some other

/-- The parts of a group that constrain rows, without what does not constrain in them. -/
def prunedParts : List Predicate → List Predicate
  -- A part of which nothing is left has no place in its group.
  | [] => []
  | part :: rest => part.pruned?.toList ++ prunedParts rest

end

/-- The parts of a group that constrain rows, part by part. -/
theorem prunedParts_eq (parts : List Predicate) : prunedParts parts = parts.filterMap pruned? := by
  -- A part of which nothing is left is skipped, as by the filter.
  induction parts with
  | nil => rfl
  | cons part rest ih => cases own : pruned? part <;> simp [prunedParts, own, ih]

mutual

/-- The formula that a condition stands for, group by group and test by test. -/
def formula (backend : Backend) : Predicate → Formula
  -- The tests differ in their operands, each of which is a column or is bound.
  | .all parts => .all (formulas backend parts)
  | .any parts => .any (formulas backend parts)
  | .compare column comparison value temporal =>
    .test (.compare (.column column) comparison (boundOperand backend value temporal))
  | .isNull column negated => .test (.isNull (.column column) negated)
  | .oneOf column values negated temporal =>
    .test (.among (.column column) (values.map (boundOperand backend · temporal)) negated)
  | .between column low high negated temporal =>
    .test (.between (.column column) (boundOperand backend low temporal)
      (boundOperand backend high temporal) negated)
  | .like column pattern negated cast =>
    .test (.like (castOperand backend column cast) (.bound (.text pattern))
      (.literal Literal.escape.content) negated)
  | .never => .test (.compare (.numeral "1") .equal (.numeral "0"))

/-- The formulas that the parts of a group stand for. -/
def formulas (backend : Backend) : List Predicate → List Formula
  -- No part is left out here, since what is pruned has none to leave out.
  | [] => []
  | part :: rest => part.formula backend :: formulas backend rest

end

/-- The formulas that the parts of a group stand for, part by part. -/
theorem formulas_eq (backend : Backend) (parts : List Predicate) :
    formulas backend parts = parts.map (formula backend) := by
  -- The walk over the parts keeps their order.
  induction parts with
  | nil => rfl
  | cons part rest ih => simp [formulas, ih]

/-- A group of pruned parts has nothing to prune. -/
theorem pruned?_regroup {group : List Predicate → Predicate} {parts : List Predicate}
    {pruned : Predicate}
    (opened : ∀ parts, (group parts).pruned? = regroup? group (prunedParts parts))
    (kept : ∀ part ∈ parts, part.pruned? = some part)
    (grouped : regroup? group parts = some pruned) : pruned.pruned? = some pruned := by
  -- A lone part is pruned itself, and a group of pruned parts keeps all of them.
  match parts, grouped with
  | [part], grouped =>
    cases grouped
    exact kept _ (by simp)
  | first :: second :: others, grouped =>
    cases grouped
    rw [opened, prunedParts_eq, List.filterMap_congr (g := some) kept, List.filterMap_some]
    rfl

/-- Pruning leaves nothing to prune. -/
theorem pruned?_pruned {predicate pruned : Predicate} (left : predicate.pruned? = some pruned) :
    pruned.pruned? = some pruned := by
  -- What is left of the parts of a group is pruned already.
  have kept : ∀ parts : List Predicate,
      (∀ part ∈ parts, ∀ {pruned}, part.pruned? = some pruned → pruned.pruned? = some pruned) →
      ∀ part ∈ parts.filterMap pruned?, part.pruned? = some part := by
    intro parts held part member
    obtain ⟨source, listed, own⟩ := List.mem_filterMap.mp member
    exact held source listed own
  induction predicate generalizing pruned with
  | all parts ih =>
    rw [pruned?, prunedParts_eq] at left
    exact pruned?_regroup (fun _ => by rw [pruned?])
      (kept parts ih) left
  | any parts ih =>
    rw [pruned?, prunedParts_eq] at left
    exact pruned?_regroup (fun _ => by rw [pruned?])
      (kept parts ih) left
  | oneOf column values negated temporal =>
    by_cases none : values.isEmpty = true
    · -- What is left of a list without values is the test that fails, or nothing.
      cases negated
      · simp only [pruned?, none, if_true, Bool.false_eq_true, if_false, Option.some.injEq] at left
        rw [← left]
        rfl
      · simp [pruned?, none] at left
    · simp only [pruned?, none, Bool.false_eq_true, if_false, Option.some.injEq] at left
      rw [← left, pruned?, if_neg none]
  | _ =>
    cases left
    rfl

variable {Value : Type}

/-- The truth of a condition is that of the formula it stands for once it is pruned. -/
theorem truth?_eq (semantics : Semantics Value) (backend : Backend) (row : String → Option Value)
    (predicate : Predicate) :
    predicate.truth? (semantics.tests backend row)
      = predicate.pruned?.map fun pruned => (pruned.formula backend).truth semantics row := by
  -- The parts of a group that have a truth value are those that are left of it.
  have grouped : ∀ parts : List Predicate, (∀ part ∈ parts,
      part.truth? (semantics.tests backend row)
        = part.pruned?.map fun pruned => (pruned.formula backend).truth semantics row) →
      parts.filterMap (truth? (semantics.tests backend row))
        = (parts.filterMap pruned?).map fun pruned =>
            (pruned.formula backend).truth semantics row := by
    intro parts held
    rw [List.map_filterMap]
    exact List.filterMap_congr held
  induction predicate with
  | all parts ih =>
    rw [truth?, truths_eq, grouped parts ih, pruned?, prunedParts_eq]
    rcases parts.filterMap pruned? with _ | ⟨first, _ | ⟨second, others⟩⟩
    · rfl
    · -- A group of one part has the truth of that part.
      simp [regroup?]
    · simp [regroup?, formula, formulas_eq, Formula.truth, Formula.truths_eq, Function.comp_def]
  | any parts ih =>
    rw [truth?, truths_eq, grouped parts ih, pruned?, prunedParts_eq]
    rcases parts.filterMap pruned? with _ | ⟨first, _ | ⟨second, others⟩⟩
    · rfl
    · -- A group of one part has the truth of that part.
      simp [regroup?]
    · simp [regroup?, formula, formulas_eq, Formula.truth, Formula.truths_eq, Function.comp_def]
  | oneOf column values negated temporal =>
    cases values with
    | nil =>
      -- A test against no values fails without looking at the row, unless it is negated.
      cases negated
      · simp [truth?, pruned?, formula, Formula.truth, Test.truth, Operand.evaluate,
          Semantics.compared, semantics.one_ne_zero, Truth.any, Truth.negateIf, Truth.ofBool]
      · simp [truth?, pruned?]
    | cons first rest =>
      simp [truth?, pruned?, formula, Formula.truth, Test.truth, Operand.evaluate,
        Semantics.tests, Function.comp_def]
  | never =>
    simp [truth?, pruned?, formula, Formula.truth, Test.truth, Operand.evaluate,
      Semantics.compared, semantics.one_ne_zero, Truth.ofBool]
  | _ => rfl

end Predicate

end RowFilter
