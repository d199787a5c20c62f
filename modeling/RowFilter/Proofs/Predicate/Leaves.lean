import Mathlib.Data.List.Basic
import RowFilter.Proofs.Predicate.Basic

/-! The tests that a condition is made of, without the groups they stand in. -/

namespace RowFilter.Predicate

mutual

/-- The tests of a condition, in order. -/
def leaves : Predicate → List Predicate
  -- The connectives are dropped, and the constant for no row is a test like any other.
  | .all parts => allLeaves parts
  | .any parts => allLeaves parts
  | leaf => [leaf]

/-- The tests of the parts of a group, in order. -/
def allLeaves : List Predicate → List Predicate
  -- The recursion goes through the parts from left to right.
  | [] => []
  | part :: rest => part.leaves ++ allLeaves rest

end

/-- The tests of a group are those of its parts. -/
theorem allLeaves_eq (parts : List Predicate) : allLeaves parts = parts.flatMap leaves := by
  -- The walk over the parts keeps their order.
  induction parts with
  | nil => rfl
  | cons part rest ih => simp [allLeaves, ih]

/-- The tests of a conjunction are those of its parts. -/
@[simp] theorem leaves_all (parts : List Predicate) :
    (Predicate.all parts).leaves = parts.flatMap leaves := by rw [leaves, allLeaves_eq]

/-- The tests of a choice are those of its parts. -/
@[simp] theorem leaves_any (parts : List Predicate) :
    (Predicate.any parts).leaves = parts.flatMap leaves := by rw [leaves, allLeaves_eq]

/-- The columns of a condition are those of its tests. -/
theorem columns_eq_leaves (predicate : Predicate) :
    predicate.columns = predicate.leaves.flatMap columns := by
  -- A test is its own only one, and a group passes on those of its parts.
  have grouped : ∀ parts : List Predicate,
      (∀ part ∈ parts, part.columns = part.leaves.flatMap columns) →
      parts.flatMap columns = (parts.flatMap leaves).flatMap columns := by
    intro parts held
    rw [List.flatMap_assoc]
    exact List.flatMap_congr held
  induction predicate with
  | all parts ih => rw [columns, allColumns_eq, leaves_all, grouped parts ih]
  | any parts ih => rw [columns, allColumns_eq, leaves_any, grouped parts ih]
  | _ => simp [leaves]

/-- A condition whose tests all constrain rows has none of them if it does not constrain any. -/
theorem leaves_of_isEmpty {predicate : Predicate} (empty : predicate.isEmpty = true)
    (constrains : ∀ leaf ∈ predicate.leaves, leaf.isEmpty = false) : predicate.leaves = [] := by
  -- By induction on the condition; a group without constraints has only parts without any.
  have grouped : ∀ parts : List Predicate,
      (∀ part ∈ parts, part.isEmpty = true →
        (∀ leaf ∈ part.leaves, leaf.isEmpty = false) → part.leaves = []) →
      allEmpty parts = true → (∀ leaf ∈ parts.flatMap leaves, leaf.isEmpty = false) →
      parts.flatMap leaves = [] := by
    intro parts held empty constrains
    rw [allEmpty_eq, List.all_eq_true] at empty
    rw [List.flatMap_eq_nil_iff]
    exact fun part listed => held part listed (empty part listed)
      fun leaf own => constrains leaf (List.mem_flatMap.mpr ⟨part, listed, own⟩)
  induction predicate with
  | all parts ih =>
    rw [leaves_all] at constrains ⊢
    exact grouped parts ih empty constrains
  | any parts ih =>
    rw [leaves_any] at constrains ⊢
    exact grouped parts ih empty constrains
  | _ =>
    -- A test by itself would be one that does not constrain rows.
    have own := constrains _ (List.mem_singleton.mpr rfl)
    rw [empty] at own
    cases own

end RowFilter.Predicate
