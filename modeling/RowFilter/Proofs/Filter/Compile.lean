import RowFilter.Proofs.Filter.Operator

/-! Compiled filters select the rows on which the filters hold. -/

namespace RowFilter

open Predicate

variable {Value : Type} (interpretation : Interpretation Value) (values : String → Option Value)

namespace Condition

/-- The operators on a field compile to what they say, one by one. -/
theorem forall₂_compileOperators {field : String} {kind : Option Kind}
    {entries : List (Operator × Operand)} {predicates : List Predicate}
    (compiled : compileOperators field kind entries = .ok predicates) :
    List.Forall₂ (Says (interpretation.tests values)) predicates
      (entries.filterMap fun (operator, operand) =>
        operator.meaning? interpretation kind (values field) operand) := by
  -- All operators have to compile, and those that say nothing compile to nothing.
  induction entries generalizing predicates with
  | nil => cases compiled; exact .nil
  | cons entry rest ih =>
    obtain ⟨operator, operand⟩ := entry
    rw [compileOperators] at compiled
    obtain ⟨first, applied, behind⟩ := Result.bind_ok compiled
    obtain ⟨more, others, joined⟩ := Result.bind_ok behind
    cases joined
    have own := forall₂_toList (Operator.rel_apply interpretation values applied)
    have both := List.rel_append own (ih others)
    cases said : operator.meaning? interpretation kind (values field) operand <;>
      simpa [List.filterMap_cons, said] using both

/-- A condition on a field compiles to what it says about the field. -/
theorem forall₂_compile {table : Table} {field : String} {condition : Condition}
    {predicates : List Predicate} (compiled : condition.compile table field = .ok predicates) :
    List.Forall₂ (Says (interpretation.tests values)) predicates
      (condition.meanings interpretation (table.kindOf? field) (values field)) := by
  -- A literal alone is one operator, and no condition is no operator.
  cases condition with
  | equals literal =>
    have said := forall₂_compileOperators interpretation values compiled
    cases told : Operator.meaning? interpretation (table.kindOf? field) (values field) .equal
      (.scalar literal) <;> simpa [meanings, List.filterMap_cons, told] using said
  | operators entries => exact forall₂_compileOperators interpretation values compiled
  | unconstrained => cases compiled; exact .nil

end Condition

/-- A table has fields, since it has a key. -/
theorem Table.fields_ne_nil (table : Table) : table.fields ≠ [] := by
  -- The first column of the key is declared among the fields.
  intro none
  have member := table.declared _ (List.head_mem table.keyed)
  simp [none] at member

namespace Search

/-- A search compiles to what it says, as long as it has a field to look in. -/
theorem rel_compile {table : Table} {search : Search} {result : Option Predicate}
    (named : ∀ literal, search ≠ .within (.columns []) literal)
    (compiled : search.compile table = .ok result) :
    Option.Rel (Says (interpretation.tests values)) result
      (search.meaning? interpretation table values) := by
  -- Searches are choices over the fields, and so there has to be one.
  have found (column text : String) (kind : Option Kind) :
      Says (interpretation.tests values) (.containing column text false kind)
        (interpretation.finds kind (values column) text) := by
    simpa [← Interpretation.finds_eq] using
      says_containing interpretation values column text false kind
  cases search with
  | everywhere literal =>
    by_cases truthy : literal.isTruthy = true
    · simp only [compile, truthy, if_true, Except.ok.injEq] at compiled
      rw [← compiled, meaning?, if_pos truthy]
      exact .some (says_any table.fields_ne_nil fun field _ => found field.name _ _)
    · simp only [compile, truthy, Bool.false_eq_true, if_false, Except.ok.injEq] at compiled
      rw [← compiled, meaning?, if_neg truthy]
      exact .none
  | within fields literal =>
    have listed : fields.resolve table ≠ [] := by
      cases fields with
      | all => simpa [Projection.resolve, Table.fieldNames] using table.fields_ne_nil
      | columns names =>
        rintro rfl
        exact named literal rfl
    cases literal with
    | text text =>
      by_cases empty : text = ""
      · subst empty
        cases compiled
        exact .none
      · simp only [compile, empty, if_false, Except.ok.injEq] at compiled
        rw [← compiled]
        simp only [meaning?]
        exact .some (says_any listed fun column _ => found column text _)
    | int number =>
      cases compiled
      exact .some (says_any listed fun column _ =>
        says_comparing interpretation values column .equal (.int number) none)
    | float number =>
      cases compiled
      exact .some (says_any listed fun column _ =>
        says_comparing interpretation values column .equal (.float number) none)
    | null => cases compiled
    | bool value => cases compiled

end Search

namespace Clause

/-- An entry compiles to what it says. -/
theorem forall₂_compileEntry {table : Table} {entry : Entry} {predicates : List Predicate}
    (named : ∀ literal, entry ≠ .search (.within (.columns []) literal))
    (compiled : compileEntry table entry = .ok predicates) :
    List.Forall₂ (Says (interpretation.tests values)) predicates
      (entry.meanings interpretation table values) := by
  -- A condition says one thing for each operator, and a search one thing or none.
  cases entry with
  | field name condition => exact Condition.forall₂_compile interpretation values compiled
  | search term =>
    obtain ⟨result, searched, rfl⟩ := Result.map_ok compiled
    refine forall₂_toList (Search.rel_compile interpretation values ?_ searched)
    rintro literal rfl
    exact named literal rfl

/-- The entries of a clause compile to what they say, one by one. -/
theorem forall₂_compileEntries {table : Table} {clause : Clause} {predicates : List Predicate}
    (named : NamesFields clause) (compiled : compileEntries table clause = .ok predicates) :
    List.Forall₂ (Says (interpretation.tests values)) predicates
      (Clause.meanings interpretation table values clause) := by
  -- The entries compile in their order, and so do their conditions stand.
  induction clause generalizing predicates with
  | nil => cases compiled; exact .nil
  | cons entry rest ih =>
    rw [compileEntries] at compiled
    obtain ⟨first, own, behind⟩ := Result.bind_ok compiled
    obtain ⟨more, others, joined⟩ := Result.bind_ok behind
    cases joined
    have searched : ∀ literal, entry ≠ .search (.within (.columns []) literal) := by
      rintro literal rfl
      exact named literal (by simp)
    have later : NamesFields rest := fun literal member => named literal (by simp [member])
    exact List.rel_append (forall₂_compileEntry interpretation values searched own)
      (ih later others)

/-- A clause compiles to a condition that is absent if the clause says nothing, and otherwise holds
exactly if all that the clause says does. -/
theorem truth?_compile {table : Table} {clause : Clause} {predicate : Predicate}
    (named : NamesFields clause) (compiled : Clause.compile table clause = .ok predicate) :
    (predicate.truth? (interpretation.tests values)).map Truth.holds
      = if (Clause.meanings interpretation table values clause).isEmpty then none
        else some ((Clause.meanings interpretation table values clause).all id) := by
  -- The group has a truth value exactly if there is an entry that says anything.
  obtain ⟨predicates, entries, rfl⟩ := Result.map_ok compiled
  have said := holds_filterMap (forall₂_compileEntries interpretation values named entries)
  rw [← said, truth?, truths_eq]
  cases predicates.filterMap (truth? (interpretation.tests values)) with
  | nil => rfl
  | cons value rest =>
    show some (Truth.all (value :: rest)).holds = _
    simp [Truth.holds_all, List.all_map]

end Clause

namespace Filter

/-- The branches of a choice that constrain rows hold as the clauses that say anything do. -/
theorem holds_branches {table : Table} {clauses : List Clause} {branches : List Predicate}
    (named : ∀ clause ∈ clauses, Clause.NamesFields clause)
    (compiled : List.Forall₂ (fun branch clause => Clause.compile table clause = .ok branch)
      branches clauses) :
    ((branches.filter fun branch => !branch.isEmpty).filterMap
        (truth? (interpretation.tests values))).map Truth.holds
      = ((clauses.map (Clause.meanings interpretation table values)).filter (!·.isEmpty)).map
          (·.all id) := by
  -- A branch is left out exactly if its clause says nothing.
  induction compiled with
  | nil => rfl
  | @cons branch clause branches clauses own others ih =>
    have later := ih fun other member => named other (by simp [member])
    have told := Clause.truth?_compile interpretation values (named clause (by simp)) own
    have empty := branch.isEmpty_eq (interpretation.tests values)
    cases value : branch.truth? (interpretation.tests values) <;>
      cases said : (Clause.meanings interpretation table values clause).isEmpty <;>
      simp_all

/-- A filter compiles to a condition that selects exactly the rows on which the filter holds. -/
theorem compile_selects {table : Table} {filter : Filter} {predicate : Predicate}
    (named : filter.NamesFields) (compiled : filter.compile table = .ok predicate) :
    predicate.selects (interpretation.tests values)
      = filter.holds interpretation table values := by
  -- A clause that says nothing selects every row by itself, but is no branch of a choice.
  cases filter with
  | clause entries =>
    have told := Clause.truth?_compile interpretation values (named entries (by simp [clauses]))
      compiled
    rw [selects_eq, told, holds]
    cases Clause.meanings interpretation table values entries <;> rfl
  | anyOf choice =>
    obtain ⟨branches, each, chosen⟩ := Result.bind_ok compiled
    cases chosen
    have searched : ∀ clause ∈ choice, Clause.NamesFields clause := named
    have told := holds_branches interpretation values searched (Result.mapM_ok each)
    -- Both sides ask whether a branch is left, and whether one that is left holds.
    have none := congrArg List.isEmpty told
    have some := congrArg (List.any · id) told
    simp only [List.isEmpty_map, List.any_map, Function.id_comp] at none some
    rw [selects_any, holds, none, some]

/-- A clause without conditions does not widen a choice, and null is no item of a list. -/
theorem compile_selects_choice : ∃ predicate,
    Filter.compile .books (.anyOf [[], [.field "title" .unconstrained],
      [.field "id" (.operators [(.between, .range (.int 1) (.int 5)),
        (.noneOf, .list [.null, .int 3])])]]) = .ok predicate ∧
    ∀ number : Option Int, predicate.selects (Interpretation.tests
        ⟨fun | .int value, _ => value.toInt | _, _ => 0, (· == ·), (decide <| · < ·),
          fun _ _ _ => false⟩ fun column => if column = "id" then number else none)
      = number.any fun present => decide (1 ≤ present) && decide (present ≤ 5) && present != 3 := by
  -- The filter compiles by computation, and what it selects is then read off what it means.
  obtain ⟨predicate, compiled⟩ : ∃ predicate,
      Filter.compile .books (.anyOf [[], [.field "title" .unconstrained],
        [.field "id" (.operators [(.between, .range (.int 1) (.int 5)),
          (.noneOf, .list [.null, .int 3])])]]) = .ok predicate := ⟨_, rfl⟩
  refine ⟨predicate, compiled, fun number => ?_⟩
  rw [compile_selects _ _ (by simp [NamesFields, clauses, Clause.NamesFields]) compiled]
  cases number with
  | none => rfl
  | some present =>
    simp [holds, Clause.meanings, Entry.meanings, Condition.meanings, Operator.meaning?,
      Interpretation.isWithin, Interpretation.isAmong, Interpretation.meets,
      Interpretation.relates, Scalar.toParameter?]
    grind

end Filter

end RowFilter
