import RowFilter.Filter.Compile
import RowFilter.Proofs.Predicate.Flat
import RowFilter.Proofs.Result

/-! Filters compile to flat conditions: a clause to a conjunction, and a choice to what is none. -/

namespace RowFilter

open Predicate

namespace Operator

variable {operator : Operator} {column : String} {kind : Option Kind} {predicate : Predicate}

/-- A comparison with a literal is a single test. -/
theorem isConjunct_applyScalar (literal : Scalar) :
    (operator.applyScalar column literal kind).isConjunct = true := by
  -- By the three ways to compare, none of which has parts.
  unfold applyScalar
  split
  · rfl
  · rfl
  · -- What cannot be bound is compared with nothing, and no row passes.
    unfold comparing
    split <;> rfl

/-- A list is a single test, if it is one at all. -/
theorem isConjunct_applyList {items : List Scalar} {negated : Bool}
    (applied : applyList column items negated kind = some predicate) :
    predicate.isConjunct = true := by
  -- The empty list is a case of its own, and all others are one test of membership.
  unfold applyList at applied
  split at applied
  · -- Nothing is left of the items, so that either no row passes or there is no test.
    split at applied <;> cases applied
    rfl
  · cases applied
    rfl

/-- A range is a single test. -/
theorem isConjunct_applyRange (low high : Scalar) (negated : Bool) :
    (applyRange column low high negated kind).isConjunct = true := by
  -- Without both of its ends there is no range, and then no row passes.
  unfold applyRange
  split <;> rfl

/-- What an operator makes of an operand is a single test, if it is one at all. -/
theorem isConjunct_apply {operand : Operand}
    (applied : operator.apply column operand kind = .ok (some predicate)) :
    predicate.isConjunct = true := by
  -- An operator is applied to an operand of its shape, and fails for any other one.
  unfold apply at applied
  split at applied
  · cases applied
    exact isConjunct_applyScalar _
  · exact isConjunct_applyList (Except.ok.inj applied)
  · cases applied
    exact isConjunct_applyRange _ _ _
  · obtain ⟨pattern, made, same⟩ := Result.map_ok applied
    cases same
    unfold applyPattern at made
    split at made <;> cases made
    rfl
  · cases applied
    rfl
  · cases applied

end Operator

namespace Search

/-- A choice between flat conditions can be a part of a flat conjunction. -/
theorem isConjunct_any_map {α : Type} {condition : α → Predicate}
    (flat : ∀ item, (condition item).isFlat = true) (items : List α) :
    (Predicate.any (items.map condition)).isConjunct = true := by
  -- The choice is no conjunction itself, and flat if each of its branches is.
  simp [isConjunct, isAll, isFlat_any, flat]

/-- A search is a choice between single tests, if it looks for something. -/
theorem isConjunct_compile {table : Table} {search : Search} {predicate : Predicate}
    (compiled : search.compile table = .ok (some predicate)) : predicate.isConjunct = true := by
  -- By what is looked for and where; each column is searched by one test.
  cases search with
  | everywhere literal =>
    rw [compile] at compiled
    split at compiled <;> cases compiled
    exact isConjunct_any_map (fun _ => rfl) _
  | within fields literal =>
    -- A text is searched for in each column, and a number compared with it.
    cases literal with
    | text text =>
      rw [compile] at compiled
      split at compiled <;> cases compiled
      exact isConjunct_any_map (fun _ => rfl) _
    | int number | float number =>
      cases compiled
      exact isConjunct_any_map (fun _ => rfl) _
    | null | bool value => cases compiled

end Search

/-- Each condition that operators on a field compile to is made by one of them. -/
theorem Condition.exists_of_mem_compileOperators {field : String} {kind : Option Kind}
    {entries : List (Operator × Operand)} {predicates : List Predicate} {predicate : Predicate}
    (compiled : compileOperators field kind entries = .ok predicates)
    (listed : predicate ∈ predicates) :
    ∃ used ∈ entries, used.1.apply field used.2 kind = .ok (some predicate) := by
  -- The operators are compiled one by one, and all of them have to compile.
  induction entries generalizing predicates with
  | nil => cases compiled; cases listed
  | cons entry rest ih =>
    obtain ⟨result, applied, behind⟩ := Result.bind_ok compiled
    obtain ⟨more, others, joined⟩ := Result.bind_ok behind
    cases joined
    rcases List.mem_append.mp listed with own | later
    · exact ⟨entry, List.mem_cons_self .., Option.mem_toList.mp own ▸ applied⟩
    · obtain ⟨used, member, made⟩ := ih others later
      exact ⟨used, List.mem_cons_of_mem _ member, made⟩

namespace Clause

variable {table : Table} {predicates : List Predicate} {predicate : Predicate}

/-- Each condition that the entries of a clause compile to is one of those of an entry. -/
theorem exists_of_mem_compileEntries {clause : Clause}
    (compiled : compileEntries table clause = .ok predicates) (listed : predicate ∈ predicates) :
    ∃ entry ∈ clause, ∃ parts, compileEntry table entry = .ok parts ∧ predicate ∈ parts := by
  -- The entries are compiled one by one, and all of them have to compile.
  induction clause generalizing predicates with
  | nil => cases compiled; cases listed
  | cons entry rest ih =>
    obtain ⟨first, own, behind⟩ := Result.bind_ok compiled
    obtain ⟨more, others, joined⟩ := Result.bind_ok behind
    cases joined
    rcases List.mem_append.mp listed with here | later
    · exact ⟨entry, List.mem_cons_self .., first, own, here⟩
    · obtain ⟨other, member, made⟩ := ih others later
      exact ⟨other, List.mem_cons_of_mem _ member, made⟩

/-- An entry compiles to conditions that can be parts of a flat conjunction. -/
theorem isConjunct_compileEntry {entry : Entry}
    (compiled : compileEntry table entry = .ok predicates) (listed : predicate ∈ predicates) :
    predicate.isConjunct = true := by
  -- A condition gives one test for each operator, and a search one choice at most.
  cases entry with
  | field name condition =>
    cases condition with
    | equals _ | operators _ =>
      obtain ⟨used, -, applied⟩ := Condition.exists_of_mem_compileOperators compiled listed
      exact Operator.isConjunct_apply applied
    | unconstrained => cases compiled; cases listed
  | search term =>
    obtain ⟨result, searched, rfl⟩ := Result.map_ok compiled
    rw [Option.mem_toList.mp listed] at searched
    exact Search.isConjunct_compile searched

/-- A clause compiles to a flat conjunction. -/
theorem isFlat_compile {clause : Clause} (compiled : clause.compile table = .ok predicate) :
    predicate.isFlat = true := by
  -- The parts of the conjunction come from the entries, one by one.
  obtain ⟨predicates, entries, rfl⟩ := Result.map_ok compiled
  rw [isFlat_all, List.all_eq_true]
  intro part listed
  obtain ⟨entry, -, parts, own, member⟩ := exists_of_mem_compileEntries entries listed
  exact isConjunct_compileEntry own member

end Clause

namespace Filter

variable {table : Table} {filter : Filter} {predicate : Predicate}

/-- Whether a filter compiles to a condition that constrains rows. -/
def constrains (table : Table) (filter : Filter) : Bool :=
  -- A filter that fails to compile constrains nothing, for it is not asked about at all.
  (filter.compile table).toOption.any fun predicate => !predicate.isEmpty

/-- A filter compiles to a flat condition. -/
theorem isFlat_compile (compiled : filter.compile table = .ok predicate) :
    predicate.isFlat = true := by
  -- A clause is flat as it stands, and a choice is flat because its clauses are.
  cases filter with
  | clause entries => exact Clause.isFlat_compile compiled
  | anyOf choice =>
    obtain ⟨branches, each, chosen⟩ := Result.bind_ok compiled
    cases chosen
    rw [isFlat_any, List.all_eq_true]
    -- Each branch that is left is the conjunction of one clause.
    intro branch listed
    obtain ⟨clause, -, own⟩ := Result.mem_of_mapM each (List.mem_of_mem_filter listed)
    exact Clause.isFlat_compile own

/-- A filter compiles to a conjunction exactly if it is a clause. -/
theorem isAll_compile (compiled : filter.compile table = .ok predicate) :
    predicate.isAll = true ↔ ∃ entries, filter = .clause entries := by
  -- The shape of the filter fixes that of the condition, whatever is in it.
  cases filter with
  | clause entries =>
    obtain ⟨predicates, -, rfl⟩ := Result.map_ok compiled
    exact ⟨fun _ => ⟨entries, rfl⟩, fun _ => rfl⟩
  | anyOf choice =>
    obtain ⟨branches, -, chosen⟩ := Result.bind_ok compiled
    cases chosen
    simp [isAll]

end Filter

end RowFilter
