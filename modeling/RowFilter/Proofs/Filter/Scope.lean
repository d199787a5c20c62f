import RowFilter.Proofs.Filter.Compile

/-! Which filters place no condition: the ones that compile to a predicate without constraints. -/

namespace RowFilter

/-- Whether an operator places no condition: it excludes nothing but null. -/
def Operator.isConditionless : Operator → Operand → Bool
  -- Nothing else leaves a row as it is: even an empty list of what is wanted excludes all rows.
  | .noneOf, .list items => items.all (· = .null)
  | _, _ => false

/-- Whether a condition on a field leaves the field alone. -/
def Condition.isConditionless : Condition → Bool
  -- Equality always tests something, be it whether there is a value.
  | .equals _ => false
  | .operators entries => entries.all fun (operator, operand) => operator.isConditionless operand
  | .unconstrained => true

/-- Whether a search looks for nothing, or looks nowhere. -/
def Search.isConditionless : Search → Bool
  -- What is empty counts as nothing everywhere, but only an empty text does in chosen fields.
  | .everywhere literal => !literal.isTruthy
  | .within fields literal => literal = .text "" || fields = .columns []

/-- Whether an entry of a clause places no condition. -/
def Entry.isConditionless : Entry → Bool
  -- The name of the field does not matter here.
  | .field _ condition => condition.isConditionless
  | .search term => term.isConditionless

/-- Whether no entry of any clause of a filter places a condition. -/
def Filter.IsConditionless (filter : Filter) : Prop :=
  -- Branches are asked one by one, as a choice has none that is left out here.
  ∀ clause ∈ filter.clauses, ∀ entry ∈ clause, Entry.isConditionless entry = true

instance (filter : Filter) : Decidable filter.IsConditionless :=
  -- Both quantifiers range over lists.
  inferInstanceAs (Decidable (∀ clause ∈ filter.clauses, ∀ entry ∈ clause,
    Entry.isConditionless entry = true))

namespace Predicate

/-- A comparison constrains rows, since null makes it fail on all of them. -/
@[simp] theorem isEmpty_comparing (column : String) (comparison : Comparison) (literal : Scalar)
    (kind : Option Kind) : (comparing column comparison literal kind).isEmpty = false := by
  -- The comparison is a test, or the constant that holds for no row.
  cases bound : literal.toParameter? <;> simp [comparing, bound, isEmpty]

/-- A search of a column constrains rows. -/
@[simp] theorem isEmpty_containing (column text : String) (negated : Bool) (kind : Option Kind) :
    (containing column text negated kind).isEmpty = false := rfl

/-- A choice between conditions that all constrain rows does so itself, unless there are none. -/
theorem isEmpty_any_map {α : Type} {condition : α → Predicate}
    (constrains : ∀ item, (condition item).isEmpty = false) (items : List α) :
    (Predicate.any (items.map condition)).isEmpty = items.isEmpty := by
  -- The first item decides, since its condition is enough.
  cases items with
  | nil => rfl
  | cons first rest => simp [isEmpty, allEmpty, constrains first]

/-- Looking for a value in columns constrains rows, unless there are no columns. -/
theorem isEmpty_any_compare (value : Parameter) (columns : List String) :
    (Predicate.any (columns.map fun column => .compare column .equal value false)).isEmpty
      = columns.isEmpty :=
  -- One test stands for each column, so that there are none only without columns.
  isEmpty_any_map (fun _ => rfl) columns

end Predicate

open Predicate

namespace Operator

/-- A comparison with a literal constrains rows, whatever the literal. -/
theorem isEmpty_applyScalar (operator : Operator) (column : String) (literal : Scalar)
    (kind : Option Kind) : (operator.applyScalar column literal kind).isEmpty = false := by
  -- Only equality with null is no comparison, and then it asks for a missing value.
  unfold applyScalar
  split <;> simp [isEmpty]

/-- A range constrains rows, since a missing bound makes it fail on all of them. -/
theorem isEmpty_applyRange (column : String) (low high : Scalar) (negated : Bool)
    (kind : Option Kind) : (applyRange column low high negated kind).isEmpty = false := by
  -- Both outcomes are tests, also the constant for a missing bound.
  unfold applyRange
  split <;> simp [isEmpty]

/-- A list constrains rows unless it excludes nothing but null. -/
theorem all_isEmpty_applyList (column : String) (items : List Scalar) (negated : Bool)
    (kind : Option Kind) :
    (applyList column items negated kind).toList.all isEmpty
      = (negated && items.all (· = .null)) := by
  -- What is left of the items decides, and nothing is left if all of them are null.
  rw [← Scalar.isEmpty_filterMap]
  cases bound : items.filterMap Scalar.toParameter? <;> cases negated <;>
    simp [applyList, bound, isEmpty]

/-- An operator compiles to a constraint exactly if it is not conditionless. -/
theorem all_isEmpty_apply {operator : Operator} {column : String} {operand : Operand}
    {kind : Option Kind} {result : Option Predicate}
    (applied : operator.apply column operand kind = .ok result) :
    result.toList.all isEmpty = operator.isConditionless operand := by
  -- An operand of another shape than the operator's would have failed.
  unfold apply at applied
  split at applied
  · cases applied
    cases operator <;> simp_all [isEmpty_applyScalar, isConditionless]
  · rename_i items listed
    cases applied
    have emptied := all_isEmpty_applyList column items (operator = .noneOf) kind
    cases operator <;> simp_all [isConditionless, shape]
  · cases applied
    cases operator <;> simp_all [isEmpty_applyRange, isConditionless]
  · -- A pattern that is no text and no number would have failed as well.
    obtain ⟨predicate, made, rfl⟩ := Result.map_ok applied
    unfold applyPattern at made
    split at made
    · cases made
      cases operator <;> simp_all [isConditionless]
    · cases made
  · cases applied
    cases operator <;> simp_all [isEmpty, isConditionless]
  · cases applied

end Operator

namespace Condition

/-- The operators on a field compile to constraints unless all of them are conditionless. -/
theorem all_isEmpty_compileOperators {field : String} {kind : Option Kind}
    {entries : List (Operator × Operand)} {predicates : List Predicate}
    (compiled : compileOperators field kind entries = .ok predicates) :
    predicates.all isEmpty
      = entries.all fun (operator, operand) => operator.isConditionless operand := by
  -- The operators are compiled one by one, and all of them have to compile.
  induction entries generalizing predicates with
  | nil => cases compiled; rfl
  | cons entry rest ih =>
    obtain ⟨operator, operand⟩ := entry
    rw [compileOperators] at compiled
    obtain ⟨first, applied, behind⟩ := Result.bind_ok compiled
    obtain ⟨more, others, joined⟩ := Result.bind_ok behind
    cases joined
    rw [List.all_append, Operator.all_isEmpty_apply applied, ih others, List.all_cons]

/-- A condition compiles to constraints unless it is conditionless. -/
theorem all_isEmpty_compile {table : Table} {field : String} {condition : Condition}
    {predicates : List Predicate} (compiled : condition.compile table field = .ok predicates) :
    predicates.all isEmpty = condition.isConditionless := by
  -- A literal is one operator, which always constrains rows.
  cases condition with
  | equals literal =>
    rw [all_isEmpty_compileOperators compiled]
    rfl
  | operators entries => exact all_isEmpty_compileOperators compiled
  | unconstrained => cases compiled; rfl

end Condition

namespace Search

/-- The columns of a choice in a table are none exactly if it is an empty list. -/
theorem isEmpty_resolve (fields : Projection) (table : Table) :
    (fields.resolve table).isEmpty = (fields = .columns [] : Bool) := by
  -- All columns of a table are never none.
  cases fields with
  | all => simp [Projection.resolve, Table.fieldNames, table.fields_ne_nil]
  | columns names => cases names <;> simp [Projection.resolve]

/-- A search compiles to a constraint unless it is conditionless. -/
theorem all_isEmpty_compile {table : Table} {search : Search} {result : Option Predicate}
    (compiled : search.compile table = .ok result) :
    result.toList.all isEmpty = search.isConditionless := by
  -- A search makes a choice with one test for each column, or nothing at all.
  cases search with
  | everywhere literal =>
    rw [compile] at compiled
    split at compiled
    · rename_i truthy
      cases compiled
      -- There is a field to look in, since a table has a key.
      have choice := isEmpty_any_map (fun field : Field =>
        isEmpty_containing field.name (textOf literal) false (some field.kind)) table.fields
      simp [choice, isConditionless, truthy, table.fields_ne_nil]
    · rename_i falsy
      cases compiled
      simp [isConditionless, falsy]
  | within fields literal =>
    have nowhere := isEmpty_resolve fields table
    cases literal with
    | text text =>
      rw [compile] at compiled
      split at compiled
      · rename_i empty
        cases compiled
        simp [isConditionless, empty]
      · rename_i present
        cases compiled
        have choice := isEmpty_any_map (fun column : String =>
          isEmpty_containing column text false (table.kindOf? column)) (fields.resolve table)
        simp [choice, isConditionless, nowhere, present]
    | int number =>
      cases compiled
      simp [isEmpty_any_compare, isConditionless, nowhere]
    | float number =>
      cases compiled
      simp [isEmpty_any_compare, isConditionless, nowhere]
    | null => cases compiled
    | bool value => cases compiled

end Search

namespace Clause

/-- An entry compiles to constraints unless it is conditionless. -/
theorem all_isEmpty_compileEntry {table : Table} {entry : Entry} {predicates : List Predicate}
    (compiled : compileEntry table entry = .ok predicates) :
    predicates.all isEmpty = entry.isConditionless := by
  -- A condition and a search are compiled each in its own way.
  cases entry with
  | field name condition => exact Condition.all_isEmpty_compile compiled
  | search term =>
    obtain ⟨result, searched, rfl⟩ := Result.map_ok compiled
    exact Search.all_isEmpty_compile searched

/-- The entries of a clause compile to constraints unless all of them are conditionless. -/
theorem all_isEmpty_compileEntries {table : Table} {clause : Clause} {predicates : List Predicate}
    (compiled : compileEntries table clause = .ok predicates) :
    predicates.all isEmpty = clause.all Entry.isConditionless := by
  -- The entries are compiled one by one, and all of them have to compile.
  induction clause generalizing predicates with
  | nil => cases compiled; rfl
  | cons entry rest ih =>
    rw [compileEntries] at compiled
    obtain ⟨first, own, behind⟩ := Result.bind_ok compiled
    obtain ⟨more, others, joined⟩ := Result.bind_ok behind
    cases joined
    rw [List.all_append, all_isEmpty_compileEntry own, ih others, List.all_cons]

/-- A clause compiles to a predicate without constraints exactly if it has none. -/
theorem isEmpty_compile {table : Table} {clause : Clause} {predicate : Predicate}
    (compiled : Clause.compile table clause = .ok predicate) :
    predicate.isEmpty = clause.all Entry.isConditionless := by
  -- A conjunction is without constraints if each of its parts is.
  obtain ⟨predicates, entries, rfl⟩ := Result.map_ok compiled
  rw [isEmpty, allEmpty_eq, all_isEmpty_compileEntries entries]

end Clause

namespace Filter

/-- The branches of a choice that are left constrain rows, so that none is left exactly if no clause
of the choice places a condition. -/
theorem all_isEmpty_branches {table : Table} {branches : List Predicate} {choice : List Clause}
    (compiled : List.Forall₂ (fun branch clause => Clause.compile table clause = .ok branch)
      branches choice) :
    (branches.filter fun branch => !branch.isEmpty).all isEmpty
      = choice.all (·.all Entry.isConditionless) := by
  -- A branch is left out exactly if its clause is conditionless.
  induction compiled with
  | nil => rfl
  | @cons branch clause branches choice own others ih =>
    have told := Clause.isEmpty_compile own
    rw [List.all_cons, ← ih, ← told]
    cases value : branch.isEmpty <;> simp [value]

/-- A filter compiles to a predicate without constraints exactly if none of its entries places
one. -/
theorem isEmpty_compile {table : Table} {filter : Filter} {predicate : Predicate}
    (compiled : filter.compile table = .ok predicate) :
    predicate.isEmpty = true ↔ filter.IsConditionless := by
  -- A choice keeps the branches that constrain rows, and so it has none only if none does.
  cases filter with
  | clause entries =>
    rw [Clause.isEmpty_compile compiled]
    simp [IsConditionless, clauses]
  | anyOf choice =>
    obtain ⟨branches, each, chosen⟩ := Result.bind_ok compiled
    cases chosen
    rw [isEmpty, allEmpty_eq, all_isEmpty_branches (Result.mapM_ok each)]
    simp [IsConditionless, clauses]

end Filter

end RowFilter
