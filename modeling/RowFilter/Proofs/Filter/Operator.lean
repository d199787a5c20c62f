import RowFilter.Proofs.Filter.Meaning
import RowFilter.Proofs.Predicate.Truth
import RowFilter.Proofs.Result

/-! Operators compile to conditions that hold exactly as the operators say. -/

namespace RowFilter

variable {Value : Type} (interpretation : Interpretation Value) (values : String → Option Value)

namespace Predicate

/-- A comparison holds exactly if the value meets the literal. -/
theorem says_comparing (column : String) (comparison : Comparison) (literal : Scalar)
    (kind : Option Kind) :
    Says (interpretation.tests values) (.comparing column comparison literal kind)
      (interpretation.meets comparison (literal.isTemporal kind) (values column) literal) := by
  -- Null never passes, and a missing value leaves the comparison unknown.
  cases bound : literal.toParameter? <;> cases value : values column <;>
    simp [Says, comparing, truth?, Interpretation.tests, Interpretation.meets, bound, value]

/-- The test for a missing value holds exactly if the value is missing, or is not. -/
theorem says_isNull (column : String) (negated : Bool) :
    Says (interpretation.tests values) (.isNull column negated)
      ((values column).isNone != negated) := by
  -- This test is decided for missing values as well.
  cases value : values column <;> cases negated <;>
    simp [Says, truth?, Interpretation.tests, value]

/-- A search holds exactly if the text is found, or is not found in a value that is present. -/
theorem says_containing (column text : String) (negated : Bool) (kind : Option Kind) :
    Says (interpretation.tests values) (.containing column text negated kind)
      ((values column).isSome && (interpretation.finds kind (values column) text != negated)) := by
  -- The declared kind, or for want of one the text, decides how the column is presented.
  have form : Predicate.containing column text negated kind
      = .like column (containsPattern (searchForm kind text).2) negated
          (searchForm kind text).1 := by
    cases dated : DateText.canonical? text <;> rcases kind with _ | (_ | _ | _ | _ | _) <;>
      simp [containing, searchCast, searchForm, dated]
  rw [form]
  cases value : values column <;> cases negated <;>
    simp [Says, truth?, Interpretation.tests, value, Interpretation.finds]

/-- A range holds exactly if the value lies within its bounds, or is present and does not. -/
theorem says_applyRange (column : String) (low high : Scalar) (negated : Bool)
    (kind : Option Kind) :
    Says (interpretation.tests values) (Operator.applyRange column low high negated kind)
      ((values column).isSome && low != .null && high != .null &&
        (interpretation.isWithin (low.isTemporal kind || high.isTemporal kind) (values column)
          low high != negated)) := by
  -- A bound that is null makes a condition that matches no row, negated or not.
  rw [← Scalar.isSome_toParameter? low, ← Scalar.isSome_toParameter? high]
  cases first : low.toParameter? <;> cases last : high.toParameter? <;>
    cases value : values column <;>
    simp [Says, Operator.applyRange, first, last, truth?, Interpretation.tests, value,
      Interpretation.isWithin, Interpretation.meets]

/-- A list holds exactly if a value is present and equal to one of its parameters, or to none. -/
theorem says_oneOf (column : String) {parameters : List Parameter} (listed : parameters ≠ [])
    (negated temporal : Bool) :
    Says (interpretation.tests values) (.oneOf column parameters negated temporal)
      ((values column).any fun present => (parameters.any fun parameter =>
        interpretation.equal present (interpretation.bound parameter temporal)) != negated) := by
  -- The list is decided exactly if the value is present.
  refine ⟨_, by rw [truth?, if_neg (by simp [listed])], ?_⟩
  cases value : values column with
  | none =>
    -- A missing value leaves each comparison unknown, and so the whole list.
    have unknown : Truth.any (parameters.map fun parameter =>
        (interpretation.tests values).compare column .equal parameter temporal) = .unknown :=
      Truth.any_unknown (by simpa using listed) (by simp [Interpretation.tests, value])
    simp [unknown]
  | some present =>
    have decided : (parameters.map fun parameter =>
        (interpretation.tests values).compare column .equal parameter temporal)
        = (parameters.map fun parameter => interpretation.equal present
            (interpretation.bound parameter temporal)).map Truth.ofBool := by
      simp [Interpretation.tests, value, Interpretation.relates]
    rw [decided, Truth.any_ofBool]
    simp [List.any_map]

/-- A list without values says what is told of it, and so does a list with values. -/
theorem rel_applyList (column : String) (items : List Scalar) (negated : Bool)
    (kind : Option Kind) :
    Option.Rel (Says (interpretation.tests values)) (Operator.applyList column items negated kind)
      (if negated && (items.filterMap Scalar.toParameter?).isEmpty then none
      else some ((values column).isSome &&
        (interpretation.isAmong (items.any (·.isTemporal kind)) (values column) items
          != negated))) := by
  -- Literals that are null bind nothing, and the list may be left without values.
  cases bound : items.filterMap Scalar.toParameter? with
  | nil =>
    cases negated with
    | true => simp [Operator.applyList, bound]
    | false =>
      have nothing : interpretation.isAmong (items.any (·.isTemporal kind)) (values column) items
          = false := by
        cases value : values column with
        | none => simp [Interpretation.isAmong, Interpretation.meets]
        | some present => simp [Interpretation.isAmong_present, bound]
      simpa [Operator.applyList, bound, nothing] using says_never
  | cons first rest =>
    have said := says_oneOf interpretation values column (List.cons_ne_nil first rest) negated
      (items.any (·.isTemporal kind))
    rw [← bound] at said
    cases value : values column with
    | none => simpa [Operator.applyList, bound, value] using said
    | some present =>
      simpa [Operator.applyList, bound, value, Interpretation.isAmong_present] using said

/-- A pattern holds exactly if its text is found, or is not found in a value that is present. -/
theorem rel_applyPattern {operator : Operator} {column : String} {literal : Scalar} {negated : Bool}
    {kind : Option Kind} {result : Option Predicate}
    (applied : (operator.applyPattern column literal negated kind).map some = .ok result) :
    Option.Rel (Says (interpretation.tests values)) result (literal.patternText?.map fun text =>
      (values column).isSome
        && (interpretation.finds kind (values column) text != negated)) := by
  -- A literal that is no pattern would have failed.
  obtain ⟨predicate, made, rfl⟩ := Result.map_ok applied
  cases written : literal.patternText? with
  | none => simp [Operator.applyPattern, written] at made
  | some text =>
    simp only [Operator.applyPattern, written, Except.ok.injEq] at made
    rw [← made]
    exact .some (says_containing interpretation values column text negated kind)

end Predicate

namespace Operator

open Predicate

/-- An operator compiles to what it says, and to nothing if it says nothing. -/
theorem rel_apply {operator : Operator} {column : String} {operand : Operand} {kind : Option Kind}
    {result : Option Predicate} (applied : operator.apply column operand kind = .ok result) :
    Option.Rel (Says (interpretation.tests values)) result
      (operator.meaning? interpretation kind (values column) operand) := by
  -- An operand of another shape than the operator's would have failed.
  have compared (comparison : Comparison) (literal : Scalar) :=
    says_comparing interpretation values column comparison literal kind
  cases operand with
  | scalar literal =>
    cases operator with
    | equal =>
      -- Null asks for a missing value, and every other literal is compared.
      have own := compared .equal literal
      cases applied
      cases literal with
      | null => simpa [meaning?, applyScalar] using says_isNull interpretation values column false
      | _ => exact .some own
    | notEqual =>
      have own := compared .notEqual literal
      cases applied
      cases literal with
      | null => simpa [meaning?, applyScalar] using says_isNull interpretation values column true
      | _ => exact .some own
    | less => cases applied; exact .some (compared .less literal)
    | lessEqual => cases applied; exact .some (compared .lessEqual literal)
    | greater => cases applied; exact .some (compared .greater literal)
    | greaterEqual => cases applied; exact .some (compared .greaterEqual literal)
    | like =>
      have found := rel_applyPattern interpretation values applied
      simpa [meaning?, ← Interpretation.finds_eq] using found
    | notLike =>
      have found := rel_applyPattern interpretation values applied
      simpa [meaning?] using found
    | _ => cases applied
  | list items =>
    have listed := rel_applyList interpretation values column items
    cases operator with
    | oneOf =>
      cases applied
      simpa [meaning?, ← Interpretation.isAmong_eq] using listed false kind
    | noneOf =>
      cases applied
      simpa [meaning?, Scalar.isEmpty_filterMap] using listed true kind
    | _ => cases applied
  | range low high =>
    have ranged := says_applyRange interpretation values column low high
    cases operator with
    | between =>
      cases applied
      simpa [meaning?, ← Interpretation.isWithin_eq] using ranged false kind
    | notBetween =>
      cases applied
      simpa [meaning?] using ranged true kind
    | _ => cases applied
  | flag wanted =>
    cases operator with
    | isNull =>
      cases applied
      have missing := says_isNull interpretation values column (!wanted)
      cases wanted <;> simpa [meaning?] using missing
    | _ => cases applied

end Operator

end RowFilter
