import RowFilter.Proofs.Filter.Typing
import RowFilter.Proofs.Schema.Request
import RowFilter.Proofs.Statement.Names
import RowFilter.Proofs.Store.Scope

/-! An accepted request reaches no columns but those of its table, by tests that fit them. -/

namespace RowFilter

open Sql

variable {σ α : Type}

namespace Statement

/-- The text of a statement has the tokens of its SQL. -/
theorem tokens?_render (backend : Backend) (statement : Statement) :
    tokens? backend (statement.render backend).text
      = some (Fragment.numbered backend 1 (statement.fragment backend)) := by
  -- The text is that of the fragment, whose first value has the index one.
  rw [render_eq]
  exact Fragment.tokens?_textFrom (statement.spaced_fragment backend) 1

/-- A name in the text of a statement is one that it was given. -/
theorem mem_names {backend : Backend} {statement : Statement} {index : Nat} {name : String}
    (listed : .name name ∈ Fragment.numbered backend index (statement.fragment backend)) :
    name ∈ statement.names := by
  -- The names are those at the sites, which are the same for all backends.
  rw [← names_sites, ← sites_fragment backend, ← Fragment.names_numbered index]
  exact List.mem_filterMap.mpr ⟨_, listed, rfl⟩

end Statement

namespace Store

variable (store : Store) {request : FindRequest}

/-- Rows are ordered by fields of the table, also if no keys are given. -/
theorem ordering_within (within : request.Within store.table) :
    ∀ key ∈ store.ordering request.order, key.column ∈ store.table.fieldNames := by
  -- Without keys the rows are in the order of a column of the table's own key.
  have identity : ∀ key ∈ [(⟨store.table.identityColumn, .ascending⟩ : SortKey)],
      key.column ∈ store.table.fieldNames := by
    intro key listed
    rw [List.mem_singleton.mp listed]
    exact store.table.declared _ (List.head_mem store.table.keyed)
  unfold ordering
  split
  · rename_i first rest given
    exact within.order _ given
  · exact identity

/-- A choice of fields of the table names nothing else. -/
theorem projectedNames_within (within : request.Within store.table) :
    ∀ name ∈ Statement.projectedNames (request.projection.getD .all),
      name ∈ store.table.fieldNames := by
  -- Without a choice, and with a star, no column is named.
  cases chosen : request.projection with
  | none => exact fun name listed => absurd listed List.not_mem_nil
  | some projection =>
    have known := within.projection projection chosen
    cases projection with
    | all => exact fun name listed => absurd listed List.not_mem_nil
    | columns names => exact known

/-- The query of an accepted request is a selection whose condition tests fields of the table. -/
theorem findStatement_within (within : request.Within store.table) :
    ∃ condition : Predicate, (∀ column ∈ condition.columns, column ∈ store.table.fieldNames) ∧
      store.findStatement (.ofRequest request)
        = .ok ⟨store.table, .select, request.projection.getD .all, condition,
          store.ordering request.order,
          some ⟨request.limit.getD store.settings.defaultLimit, request.offset.getD 0⟩⟩ := by
  -- Without a filter there is no condition, and with one it is what the filter compiles to.
  cases given : request.filter with
  | none =>
    refine ⟨.anything, fun column tested => absurd tested List.not_mem_nil, ?_⟩
    rw [findStatement, FindOptions.ofRequest, given]
    rfl
  | some filter =>
    obtain ⟨predicate, compiled, -, concerned⟩ := Filter.compile_suits (within.filter filter given)
    refine ⟨predicate.kept, fun column tested => ?_, ?_⟩
    · -- What is kept of the condition tests nothing, or what its leaves test.
      unfold Predicate.kept at tested
      split at tested
      · cases tested
      · rw [Predicate.columns_eq_leaves] at tested
        obtain ⟨leaf, member, own⟩ := List.mem_flatMap.mp tested
        exact (concerned leaf member).2 column own
    · rw [findStatement, FindOptions.ofRequest, given]
      exact filtered_ok compiled _ _ _ _

/-- An accepted request compiles, each test of a field is made by one of the operators for its kind
and fits the field, and the query that is sent has no identifiers but the table and its fields. -/
theorem find_confined (link : Link σ) (model : RowModel α) (state : σ) {payload : Json}
    (wellKeyed : payload.isWellKeyed = true)
    (validated : store.table.validateRequest payload = .ok request) :
    (∀ filter, request.filter = some filter → ∃ predicate,
      filter.compile store.table = .ok predicate ∧
      predicate.leaves = filter.clauses.flatten.flatMap (Entry.leaves store.table) ∧
      ∀ name condition, .field name condition ∈ filter.clauses.flatten →
        ∃ field ∈ store.table.fields, field.name = name ∧
          ∀ leaf ∈ (Entry.field name condition).leaves store.table, ∃ used ∈ condition.uses,
            used.1 ∈ Operator.forKind field.kind ∧
            used.1.apply name used.2 field.kind = .ok (some leaf) ∧ leaf.Fits field) ∧
    ∃ statement tokens,
      (store.find link.recorded model (.ofRequest request) (state, [])).2.2 = [statement] ∧
      statement.action = .select ∧
      tokens? store.backend (statement.render store.backend).text = some tokens ∧
      (∀ name, .name name ∈ tokens → name = store.table.name ∨ name ∈ store.table.fieldNames) ∧
      ∀ text, .word text ∈ tokens → text ∈ keywords := by
  -- What is accepted keeps to the table, and so does what is made of it.
  have within := Table.validateRequest_within wellKeyed validated
  constructor
  · intro filter given
    have suits := within.filter filter given
    obtain ⟨predicate, compiled, tests, -⟩ := Filter.compile_suits suits
    refine ⟨predicate, compiled, tests, fun name condition listed => ?_⟩
    obtain ⟨clause, chosen, member⟩ := List.mem_flatten.mp listed
    exact Entry.leaves_field (suits clause chosen _ member)
  · obtain ⟨condition, known, made⟩ := store.findStatement_within within
    have once := store.find_sendsOnce model (.ofRequest request)
    refine ⟨_, _, once.sent made link state, rfl, Statement.tokens?_render _ _,
      fun name listed => ?_, Fragment.words_numbered _ _⟩
    -- A query names its columns, the table, what it tests, and what it is ordered by.
    have named := Statement.mem_names listed
    simp only [Statement.names, List.mem_append, List.mem_cons, List.mem_map] at named
    rcases named with (projected | own | tested) | ⟨key, member, rfl⟩
    · exact .inr (store.projectedNames_within within name projected)
    · exact .inl own
    · exact .inr (known name tested)
    · exact .inr (store.ordering_within within key member)

/-- A range of dates, and a search that lists the star among its fields, compile and are confined,
without keys to order by. -/
theorem find_confined_books :
    let table : Table := .booksWith "due" .date (by decide)
    let store : Store := ⟨table, .postgres, .default⟩
    let silent : Link Nat := ⟨fun _ count => (.ok [], count + 1), fun _ count => ([], count + 1)⟩
    let payload : Json := .object [("filters", .object
      [("due", .object [("$between", .array [.string "2024-01-01", .string "2024-12-31"])]),
        ("$q", .object [("selectedFields", .array [.string "id", .string "*"]),
          ("value", .string "?")])])]
    ∃ request filter, table.validateRequest payload = .ok request ∧ request.filter = some filter ∧
      (∃ predicate, filter.compile table = .ok predicate ∧
        predicate.leaves = filter.clauses.flatten.flatMap (Entry.leaves table)) ∧
      ∃ statement tokens,
        (store.find silent.recorded RowModel.record (.ofRequest request) (0, [])).2.2
          = [statement] ∧
        statement.action = .select ∧
        tokens? .postgres (statement.render .postgres).text = some tokens ∧
        (∀ name, .name name ∈ tokens → name = "books" ∨ name ∈ ["id", "due"]) ∧
        ∀ text, .word text ∈ tokens → text ∈ keywords := by
  -- The payload is accepted by computation, and its request is taken from there.
  intro table store silent payload
  obtain ⟨request, filter, validated, given⟩ : ∃ request filter,
      table.validateRequest payload = .ok request ∧ request.filter = some filter :=
    ⟨_, _, rfl, rfl⟩
  obtain ⟨compiles, confined⟩ :=
    find_confined store silent RowModel.record 0 (by decide) validated
  obtain ⟨predicate, compiled, tests, -⟩ := compiles filter given
  exact ⟨request, filter, validated, given, ⟨predicate, compiled, tests⟩, confined⟩

end Store

end RowFilter
