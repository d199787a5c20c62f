import RowFilter.Predicate.Truth
import RowFilter.Sql.Condition

/-! Induction over conditions, and the walks over the parts of a group as list operations. -/

namespace RowFilter.Predicate

/-- Conditions by induction, where the two kinds of groups have their parts as a list. -/
@[elab_as_elim, induction_eliminator]
theorem induct {holds : Predicate → Prop}
    (all : ∀ parts, (∀ part ∈ parts, holds part) → holds (.all parts))
    (any : ∀ parts, (∀ part ∈ parts, holds part) → holds (.any parts))
    (compare : ∀ column comparison value temporal,
      holds (.compare column comparison value temporal))
    (isNull : ∀ column negated, holds (.isNull column negated))
    (oneOf : ∀ column values negated temporal, holds (.oneOf column values negated temporal))
    (between : ∀ column low high negated temporal,
      holds (.between column low high negated temporal))
    (like : ∀ column pattern negated cast, holds (.like column pattern negated cast))
    (never : holds .never) (predicate : Predicate) : holds predicate := by
  -- Along a list of parts the property holds of each of them.
  refine @Predicate.rec holds (fun parts => ∀ part ∈ parts, holds part) all any compare isNull
    oneOf between like never ?_ ?_ predicate
  · exact fun part member => absurd member List.not_mem_nil
  · intro first rest held others part member
    rcases List.mem_cons.mp member with same | later
    · rw [same]; exact held
    · exact others part later

/-- The SQL of the parts that constrain rows, part by part. -/
theorem fragments_eq (backend : Backend) (parts : List Predicate) :
    fragments backend parts = parts.filterMap (fragment? backend) := by
  -- A part without SQL is skipped, as by the filter.
  induction parts with
  | nil => rfl
  | cons part rest ih => cases own : fragment? backend part <;> simp [fragments, own, ih]

/-- The truth of the parts that constrain rows, part by part. -/
theorem truths_eq (row : RowTests) (parts : List Predicate) :
    truths row parts = parts.filterMap (truth? row) := by
  -- A part without a truth value is skipped, as by the filter.
  induction parts with
  | nil => rfl
  | cons part rest ih => cases own : truth? row part <;> simp [truths, own, ih]

/-- A group without constraining parts has only parts that do not constrain. -/
theorem allEmpty_eq (parts : List Predicate) : allEmpty parts = parts.all isEmpty := by
  -- The walk over the parts stops at the first one that constrains rows, and so does the test.
  induction parts with
  | nil => rfl
  | cons part rest ih => simp [allEmpty, ih]

/-- The columns of a group are those of its parts. -/
theorem allColumns_eq (parts : List Predicate) : allColumns parts = parts.flatMap columns := by
  -- The walk over the parts keeps their order.
  induction parts with
  | nil => rfl
  | cons part rest ih => simp [allColumns, ih]

/-- A condition has SQL exactly if it constrains rows. -/
theorem isNone_fragment? (backend : Backend) (predicate : Predicate) :
    (predicate.fragment? backend).isNone = predicate.isEmpty := by
  -- A group has no SQL exactly if none of its parts has any.
  have grouped : ∀ (joiner : Sql.Word) (parts : List Predicate),
      (∀ part ∈ parts, (part.fragment? backend).isNone = part.isEmpty) →
      (groupFragment? joiner (fragments backend parts)).isNone = allEmpty parts := by
    intro joiner parts held
    have emptied : (parts.filterMap (fragment? backend)).isEmpty = parts.all isEmpty := by
      induction parts with
      | nil => rfl
      | cons part rest ih =>
        have own := held part (by simp)
        have others := ih (fun other member => held other (by simp [member]))
        cases sql : part.fragment? backend <;> simp_all
    rw [fragments_eq, allEmpty_eq, ← emptied]
    -- One part stands alone, and several are joined in a group of their own.
    rcases parts.filterMap (fragment? backend) with _ | ⟨first, _ | ⟨second, rest⟩⟩ <;> rfl
  induction predicate with
  | all parts ih => exact grouped _ parts ih
  | any parts ih => exact grouped _ parts ih
  | oneOf column values negated temporal =>
    cases values <;> cases negated <;> rfl
  | _ => rfl

end RowFilter.Predicate
