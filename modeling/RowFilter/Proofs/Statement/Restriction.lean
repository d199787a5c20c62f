import RowFilter.Filter.Compile
import RowFilter.Proofs.Predicate.Reading
import RowFilter.Proofs.Predicate.Truth
import RowFilter.Proofs.Statement.Clause

/-! A statement that is restricted again and again has all of its conditions, and nothing else. -/

namespace RowFilter

open Sql Sql.Fragment

namespace Predicate

variable {backend : Backend} {row : RowTests}

/-- A condition has no SQL exactly if it places no constraint. -/
theorem fragment?_eq_none (backend : Backend) (predicate : Predicate) :
    predicate.fragment? backend = none ↔ predicate.isEmpty = true := by
  -- This says the same of there being none as of there being some.
  rw [← isNone_fragment? backend, Option.isNone_iff_eq_none]

/-- A condition without a constraint has no values. -/
theorem parameters_of_isEmpty {predicate : Predicate} (empty : predicate.isEmpty = true) :
    predicate.parameters = [] := by
  -- Without a constraint there is no SQL, and the values are those of the SQL.
  rw [← values_fragment? .sqlite, (fragment?_eq_none .sqlite predicate).mpr empty]
  rfl

/-- A condition without a constraint selects every row. -/
theorem selects_of_isEmpty {predicate : Predicate} (empty : predicate.isEmpty = true) :
    predicate.selects row = true := by
  -- Without a constraint there is no truth that could exclude a row.
  rw [isEmpty_eq row, Option.isNone_iff_eq_none] at empty
  rw [selects, empty]

/-- A condition with a constraint selects the rows on which it is true. -/
theorem selects_of_constrains {predicate : Predicate} (constrains : predicate.isEmpty = false) :
    predicate.selects row = true ↔ predicate.truth? row = some .yes := by
  -- Where there is a constraint there is a truth value, which decides.
  rw [isEmpty_eq row, Option.isNone_eq_false_iff, Option.isSome_iff_exists] at constrains
  obtain ⟨value, tested⟩ := constrains
  rw [selects, tested]
  simp

/-- The SQL of a condition is read as a formula that has the truth of the condition on every row. -/
theorem reads_truth? {predicate : Predicate} {fragment : Fragment}
    (written : predicate.fragment? backend = some fragment) (prior : Array Parameter) :
    ∃ formula, (renderAfter backend prior fragment).ReadsAs backend prior.size formula ∧
      ∀ {Value : Type} (semantics : Semantics Value) (values : String → Option Value),
        predicate.truth? (semantics.tests backend values)
          = some (formula.truth semantics values) := by
  -- What is written is what is left of the condition without the parts that do not constrain.
  have related := predicate.writtenAs_pruned backend
  rw [written] at related
  cases left : predicate.pruned? with
  | none => simp [left] at related
  | some pruned =>
    have read : WrittenAs backend fragment pruned := by simpa [left] using related
    have spaced := predicate.spaced_fragment? backend written
    refine ⟨pruned.formula backend,
      (readsAs_iff spaced (by simpa using read []) prior _).mpr rfl, fun semantics values => ?_⟩
    rw [truth?_eq, left]
    rfl

/-- A conjunction places a constraint if one of its parts does. -/
theorem isEmpty_all (parts : List Predicate) :
    (Predicate.all parts).isEmpty = parts.all isEmpty := by rw [isEmpty, allEmpty_eq]

/-- The values of a conjunction are those of its parts. -/
theorem parameters_all (parts : List Predicate) :
    (Predicate.all parts).parameters = parts.flatMap parameters := by
  -- The sites of a conjunction are those of its parts.
  rw [parameters, sites, allSites_eq, List.filterMap_flatMap, List.map_flatMap]
  rfl

/-- A conjunction selects the rows that all of its parts select. -/
theorem selects_all (parts : List Predicate) :
    (Predicate.all parts).selects row = parts.all (selects row) := by
  -- A part without a truth value is left out, and selects every row by itself.
  have grouped : (parts.filterMap (truth? row)).all Truth.holds = parts.all (selects row) := by
    induction parts with
    | nil => rfl
    | cons part rest ih =>
      rw [List.all_cons, ← ih, selects_eq]
      cases tested : part.truth? row <;> simp [tested]
  rw [selects, truth?, truths_eq, ← grouped]
  cases parts.filterMap (truth? row) with
  | nil => rfl
  | cons value rest => exact Truth.holds_all (value :: rest)

/-- How a condition stands in a conjunction: by itself, or opened if it is a conjunction. -/
inductive Conjuncts : Predicate → List Predicate → Prop
  | whole (predicate : Predicate) : Conjuncts predicate [predicate]
  | opened (parts : List Predicate) : Conjuncts (.all parts) parts

namespace Conjuncts

variable {predicate : Predicate} {parts : List Predicate}

/-- A condition constrains rows if one of its conjuncts does. -/
theorem isEmpty (stands : Conjuncts predicate parts) :
    predicate.isEmpty = parts.all Predicate.isEmpty := by
  -- A condition by itself is its only conjunct.
  cases stands with
  | whole => simp
  | opened => exact isEmpty_all parts

/-- The values of a condition are those of its conjuncts. -/
theorem parameters (stands : Conjuncts predicate parts) :
    predicate.parameters = parts.flatMap Predicate.parameters := by
  -- A condition by itself is its only conjunct.
  cases stands with
  | whole => simp
  | opened => exact parameters_all parts

/-- A condition selects the rows that all of its conjuncts select. -/
theorem selects (stands : Conjuncts predicate parts) :
    predicate.selects row = parts.all (Predicate.selects row) := by
  -- A condition by itself is its only conjunct.
  cases stands with
  | whole => simp
  | opened => exact selects_all parts

end Conjuncts

/-- Two conditions together are one of them if the other one places no constraint, and else a
conjunction in which both stand. -/
theorem and_cases (first second : Predicate) :
    (second.isEmpty = true ∧ first.and second = first) ∨
    (first.isEmpty = true ∧ first.and second = second) ∨
    (∃ parts more, Conjuncts first parts ∧ Conjuncts second more ∧
      first.and second = .all (parts ++ more)) := by
  -- The constraints are looked at first, and then the forms of the two conditions.
  unfold Predicate.and
  split
  · exact .inl ⟨‹_›, rfl⟩
  · split
    · exact .inr (.inl ⟨‹_›, rfl⟩)
    · -- The second condition is opened only where the first one is.
      refine .inr (.inr ?_)
      split
      · exact ⟨_, _, .opened _, .opened _, rfl⟩
      · exact ⟨_, _, .opened _, .whole _, rfl⟩
      · exact ⟨_, _, .whole _, .whole _, rfl⟩

/-- Two conditions together constrain rows if one of them does. -/
theorem isEmpty_and (first second : Predicate) :
    (first.and second).isEmpty = (first.isEmpty && second.isEmpty) := by
  -- A condition that is left out is one without a constraint.
  obtain ⟨empty, same⟩ | ⟨empty, same⟩ | ⟨parts, more, one, other, same⟩ := and_cases first second
  · rw [same, empty, Bool.and_true]
  · rw [same, empty, Bool.true_and]
  · rw [same, isEmpty_all, List.all_append, ← one.isEmpty, ← other.isEmpty]

/-- Two conditions together have the values of the first and then those of the second. -/
theorem parameters_and (first second : Predicate) :
    (first.and second).parameters = first.parameters ++ second.parameters := by
  -- By the three ways to join two conditions; one that is left out has no values.
  obtain ⟨empty, same⟩ | ⟨empty, same⟩ | ⟨parts, more, one, other, same⟩ := and_cases first second
  · rw [same, parameters_of_isEmpty empty, List.append_nil]
  · rw [same, parameters_of_isEmpty empty, List.nil_append]
  · rw [same, parameters_all, List.flatMap_append, ← one.parameters, ← other.parameters]

/-- Two conditions together select the rows that both select. -/
theorem selects_and (first second : Predicate) :
    (first.and second).selects row = (first.selects row && second.selects row) := by
  -- By the three ways to join two conditions; one that is left out excludes no row.
  obtain ⟨empty, same⟩ | ⟨empty, same⟩ | ⟨parts, more, one, other, same⟩ := and_cases first second
  · rw [same, selects_of_isEmpty empty, Bool.and_true]
  · rw [same, selects_of_isEmpty empty, Bool.true_and]
  · rw [same, selects_all, List.all_append, ← one.selects, ← other.selects]

variable (conditions : List Predicate) (first : Predicate)

/-- Conditions that are added one by one constrain rows if one of them does. -/
theorem isEmpty_foldl_and :
    (conditions.foldl Predicate.and first).isEmpty = (first :: conditions).all isEmpty := by
  -- What has been added so far is quantified over.
  induction conditions generalizing first with
  | nil => simp
  | cons condition rest ih => simp [ih, isEmpty_and, Bool.and_assoc]

/-- The values of conditions that are added one by one are those of each in order. -/
theorem parameters_foldl_and :
    (conditions.foldl Predicate.and first).parameters
      = (first :: conditions).flatMap parameters := by
  -- By induction on the conditions, with any first one.
  induction conditions generalizing first with
  | nil => simp
  | cons condition rest ih => simp [ih, parameters_and]

/-- Conditions that are added one by one select the rows that each of them selects. -/
theorem selects_foldl_and :
    (conditions.foldl Predicate.and first).selects row
      = (first :: conditions).all (selects row) := by
  -- By induction on the conditions, with any first one.
  induction conditions generalizing first with
  | nil => simp
  | cons condition rest ih => simp [ih, selects_and, Bool.and_assoc]

end Predicate

/-- The word that introduces a condition is among the tokens of a fragment exactly if the fragment
has it. -/
theorem Sql.Fragment.where_mem_numbered (backend : Backend) (index : Nat) (fragment : Fragment) :
    .word "WHERE" ∈ numbered backend index fragment ↔ .word .filtered ∈ fragment := by
  -- By induction on the fragment, each piece of which has words of its own only.
  induction fragment generalizing index with
  | nil => simp [numbered]
  | cons piece rest ih =>
    rw [numbered, List.mem_append, ih, List.mem_cons]
    -- No other word is spelled alike, and neither is the one behind a value.
    refine or_congr_left ?_
    cases piece with
    | word fixed => cases fixed <;> simp [Piece.tokens, Word.spelling]
    | value bound temporal =>
      by_cases shown : showsTime backend bound temporal = true <;>
        simp [Piece.tokens, shown, timeWord]
    | _ => simp [Piece.tokens]

/-- A word is in a list if it is in one of the items. -/
theorem Sql.Fragment.word_mem_list (word : Word) (items : List Fragment) :
    .word word ∈ join commaBlank items ↔ ∃ item ∈ items, .word word ∈ item := by
  -- The separator is no word.
  cases items with
  | nil => simp [join]
  | cons first rest => simp [join, commaBlank]

namespace Statement

variable {backend : Backend}

/-- A choice of columns introduces no condition. -/
theorem where_not_mem_projection (projection : Projection) :
    .word .filtered ∉ projection.fragment := by
  -- The star stands for all columns, and also for an empty choice of them.
  match projection with
  | .all => simp [Projection.fragment]
  | .columns [] => simp [Projection.fragment]
  | .columns (first :: rest) => simp [Projection.fragment, word_mem_list]

/-- What stands in front of a condition introduces none. -/
theorem where_not_mem_head {statement : Statement}
    (filtered : ∀ columns rows, statement.action ≠ .insert columns rows) :
    .word .filtered ∉ statement.head := by
  -- The action decides what stands in front.
  have columns := where_not_mem_projection statement.projection
  unfold head
  split
  · simp [columns]
  · simp
  · exact absurd ‹_› (filtered _ _)
  · exact absurd ‹_› (filtered _ _)
  · -- A stored value is bound, or it is written out as another word.
    have stored : ∀ column value,
        Piece.word .filtered ≠ storedPiece statement.table column value := by
      intro column value
      unfold storedPiece
      split <;> simp
    simp [word_mem_list, assignmentFragment, stored]
  · simp

/-- What stands behind a condition introduces none. -/
theorem where_not_mem_tail (statement : Statement) : .word .filtered ∉ statement.tail := by
  -- Neither columns nor an order nor a cut can hold the word.
  have columns := where_not_mem_projection statement.projection
  have direction : ∀ key : SortKey, Word.filtered ≠ key.direction.word := by
    intro key
    cases key.direction <;> decide
  have order : .word .filtered ∉ orderFragment statement.order := by
    unfold orderFragment
    split <;> simp [word_mem_list, SortKey.fragment, direction]
  have cut : .word .filtered ∉ cutFragment statement.page := by
    unfold cutFragment
    split <;> simp [pageFragment]
  unfold tail
  split <;> simp [columns, order, cut]

/-- What stands behind a condition binds nothing. -/
theorem values_tail (statement : Statement) : Fragment.values statement.tail = [] := by
  -- There may be an order and a cut behind a query, and columns behind a change.
  unfold tail
  split
  · rw [values_append, values_order, values_cut]
    rfl
  · rfl
  all_goals rw [values_append, values_between, values_projection]; rfl

end Statement

/-- What a statement is restricted to: a condition that is made already, or a filter. -/
inductive Restriction where
  | condition (predicate : Predicate)
  | ofFilter (filter : Filter)

namespace Restriction

/-- The condition of a restriction; that of a filter is compiled for the table. -/
def compile (table : Table) : Restriction → Except FilterError Predicate
  -- Only what is yet to be compiled can fail.
  | .condition predicate => .ok predicate
  | .ofFilter filter => filter.compile table

/-- The conditions of those restrictions that have one. -/
def predicates (table : Table) (restrictions : List Restriction) : List Predicate :=
  -- A filter that fails to compile is passed over.
  restrictions.filterMap fun restriction => (restriction.compile table).toOption

/-- Imposes a restriction on a statement in its place. -/
def impose : Restriction → ExceptT FilterError (StateM Statement) Unit
  -- What fails leaves the statement in its place, since nothing has been done to it yet.
  | .condition predicate => modify (·.restrict predicate)
  | .ofFilter filter => do
    let predicate ← MonadExcept.ofExcept (filter.compile (← get).table)
    unless predicate.isEmpty do modify (·.restrict predicate)

/-- Imposes restrictions one after the other, and goes on behind those that fail. -/
def imposeAll (restrictions : List Restriction) :
    StateM Statement (List (Except FilterError Unit)) :=
  -- The failures are gathered, so that none of them stops the others.
  restrictions.mapM fun restriction => restriction.impose.run

/-- A condition without a constraint leaves a statement as it is. -/
theorem restrict_of_isEmpty (statement : Statement) {predicate : Predicate}
    (empty : predicate.isEmpty = true) : statement.restrict predicate = statement := by
  -- The filter of the statement is joined with what changes nothing.
  have same : statement.filter.and predicate = statement.filter := if_pos empty
  rw [Statement.restrict, same]

/-- A restriction adds its condition to a statement, or fails and leaves the statement alone. -/
theorem impose_eq (restriction : Restriction) (statement : Statement) :
    restriction.impose.run.run statement
      = match restriction.compile statement.table with
        | .ok predicate => (.ok (), statement.restrict predicate)
        | .error error => (.error error, statement) := by
  -- A condition is made already, and a filter is compiled first.
  cases restriction with
  | condition predicate => rfl
  | ofFilter filter =>
    -- The filter is compiled for the table of the statement that is there.
    show ((MonadExcept.ofExcept (filter.compile statement.table) :
      ExceptT FilterError (StateM Statement) Predicate) >>= fun predicate =>
        unless predicate.isEmpty do modify (·.restrict predicate)) statement
      = match filter.compile statement.table with
        | .ok predicate => (.ok (), statement.restrict predicate)
        | .error error => (.error error, statement)
    cases filter.compile statement.table with
    | error error => rfl
    | ok predicate =>
      show (if predicate.isEmpty = true then pure () else modify (·.restrict predicate) :
        ExceptT FilterError (StateM Statement) Unit) statement
        = (.ok (), statement.restrict predicate)
      by_cases empty : predicate.isEmpty = true
      · rw [if_pos empty, restrict_of_isEmpty statement empty]
        rfl
      · rw [if_neg empty]
        rfl

/-- A filter that is imposed on a statement in its place has the outcome of being applied to it. -/
theorem impose_applyFilter (filter : Filter) (statement : Statement) :
    (ofFilter filter).impose.run.run statement
      = match statement.applyFilter filter with
        | .ok next => (.ok (), next)
        | .error error => (.error error, statement) := by
  -- Applying a filter looks at its constraint once more, which makes no difference.
  rw [impose_eq, compile, Statement.applyFilter]
  cases filter.compile statement.table with
  | error error => rfl
  | ok predicate =>
    show ((.ok (), statement.restrict predicate) : Except FilterError Unit × Statement)
      = (.ok (), if predicate.isEmpty = true then statement else statement.restrict predicate)
    by_cases empty : predicate.isEmpty = true
    · rw [if_pos empty, restrict_of_isEmpty statement empty]
    · rw [if_neg empty]

/-- Restrictions that are imposed in order fail as each of them does by itself. The statement
differs from what it was in its filter only, to which the other conditions have been added in
order. -/
theorem imposeAll_eq (restrictions : List Restriction) (statement : Statement) :
    (imposeAll restrictions).run statement
      = (restrictions.map fun restriction => (restriction.compile statement.table).map fun _ => (),
          { statement with filter :=
            (predicates statement.table restrictions).foldl Predicate.and statement.filter }) := by
  -- The induction follows the restrictions, with the statement as it is so far quantified over.
  induction restrictions generalizing statement with
  | nil => rfl
  | cons restriction rest ih =>
    -- The others are imposed on what the first one leaves, which is a statement for the same table.
    have first : (imposeAll (restriction :: rest)).run statement
        = ((restriction.impose.run.run statement).1
            :: ((imposeAll rest).run (restriction.impose.run.run statement).2).1,
          ((imposeAll rest).run (restriction.impose.run.run statement).2).2) := by
      rw [imposeAll, List.mapM_cons]
      rfl
    rw [first, impose_eq]
    cases compiled : restriction.compile statement.table with
    | error error => simp [ih, predicates, compiled, Except.toOption, Except.map]
    | ok predicate =>
      simp [ih, predicates, compiled, Except.toOption, Except.map, Statement.restrict]

/-- What has become of a statement that has been given conditions: a statement with all of them
together, and nothing else. -/
structure Conjoins (backend : Backend) (statement last : Statement) (conditions : List Predicate) :
    Prop where
  others : last = { statement with filter := last.filter }
  restricted : last.isRestricted = true ↔ ∃ condition ∈ conditions, condition.isEmpty = false
  written : ∃ tokens, tokens? backend (last.render backend).text = some tokens ∧
    (.word "WHERE" ∈ tokens ↔ last.isRestricted = true)
  bound : (last.render backend).bound
    = ({ statement with filter := .anything }.render backend).bound
      ++ (conditions.flatMap Predicate.parameters).toArray
  selects : ∀ row, last.filter.selects row = true ↔
    ∀ condition ∈ conditions, condition.isEmpty = false → condition.truth? row = some .yes
  /-- The SQL of the filter is true on the same rows. -/
  read : ∀ fragment, last.filter.fragment? backend = some fragment → ∀ prior, ∃ formula,
    (renderAfter backend prior fragment).ReadsAs backend prior.size formula ∧
      ∀ {Value : Type} (semantics : Semantics Value) (row : String → Option Value),
        formula.truth semantics row = .yes
          ↔ last.filter.selects (semantics.tests backend row) = true

/-- A statement other than an insertion has a condition in its text exactly if its filter constrains
rows. -/
theorem where_mem_render (statement : Statement)
    (filtered : ∀ columns rows, statement.action ≠ .insert columns rows) (backend : Backend) :
    ∃ tokens, tokens? backend (statement.render backend).text = some tokens ∧
      (.word "WHERE" ∈ tokens ↔ statement.isRestricted = true) := by
  -- The text is read as its tokens, and the word is looked for among these.
  refine ⟨_, tokens?_renderAfter backend (statement.spaced_fragment backend) #[], ?_⟩
  -- Of the three parts of a statement only its condition can introduce one.
  have clause : Piece.word .filtered ∈ statement.fragment backend
      ↔ Piece.word .filtered ∈ statement.filter.clause backend := by
    rw [Statement.fragment, Statement.whereFragment_eq backend filtered, List.mem_append,
      List.mem_append]
    simp [Statement.where_not_mem_head filtered, Statement.where_not_mem_tail]
  rw [where_mem_numbered, clause, Statement.isRestricted]
  cases empty : statement.filter.isEmpty with
  | true => simp [Predicate.clause_of_isEmpty empty]
  | false =>
    obtain ⟨condition, -, written⟩ := @Predicate.clause_of_constrains backend _ empty
    simp [written]

/-- A statement other than an insertion binds the values of its filter last. -/
theorem bound_render (statement : Statement)
    (filtered : ∀ columns rows, statement.action ≠ .insert columns rows) (backend : Backend) :
    (statement.render backend).bound
      = (Fragment.values statement.head ++ statement.filter.parameters).toArray := by
  -- The values are those in front of the condition, its own, and none behind it.
  rw [Statement.render_eq, Statement.fragment, Statement.whereFragment_eq backend filtered,
    values_append, values_append, Predicate.values_clause, Statement.values_tail, List.append_nil]

/-- A statement whose filter has taken conditions one by one has all of them together. -/
theorem conjoins {statement : Statement}
    (filtered : ∀ columns rows, statement.action ≠ .insert columns rows) (backend : Backend)
    (conditions : List Predicate) :
    Conjoins backend statement
      { statement with filter := conditions.foldl Predicate.and statement.filter }
      (statement.filter :: conditions) where
  -- The two statements differ in their filters only, and these have been joined one by one.
  others := rfl
  restricted := by
    rw [Statement.isRestricted, Predicate.isEmpty_foldl_and, Bool.not_eq_true',
      List.all_eq_false]
    simp
  written := where_mem_render
    { statement with filter := conditions.foldl Predicate.and statement.filter } filtered backend
  bound := by
    have none : Predicate.anything.parameters = [] := rfl
    rw [bound_render { statement with filter := .anything } filtered, none, List.append_nil,
      bound_render { statement with filter := conditions.foldl _ _ } filtered,
      Predicate.parameters_foldl_and, ← List.append_toArray]
    rfl
  selects row := by
    rw [Predicate.selects_foldl_and, List.all_eq_true]
    refine forall₂_congr fun condition _ => ?_
    -- What places no constraint selects the row anyway.
    cases empty : condition.isEmpty with
    | true => simp [Predicate.selects_of_isEmpty empty]
    | false => simp [Predicate.selects_of_constrains empty]
  read := by
    intro fragment written prior
    obtain ⟨formula, reads, same⟩ := Predicate.reads_truth? written prior
    refine ⟨formula, reads, fun semantics row => ?_⟩
    rw [Predicate.selects, same semantics row, decide_eq_true_iff]

/-- The order of restrictions does not matter for which rows are selected. -/
theorem selects_perm {restrictions others : List Restriction} (same : restrictions.Perm others)
    (statement : Statement) (row : RowTests) :
    ((imposeAll others).run statement).2.filter.selects row
      = ((imposeAll restrictions).run statement).2.filter.selects row := by
  -- What is selected goes by all of the conditions, and not by their order.
  rw [imposeAll_eq, imposeAll_eq, Predicate.selects_foldl_and, Predicate.selects_foldl_and]
  exact ((same.symm.filterMap _).cons _).all_eq

/-- A restriction that fails does nothing among others. -/
theorem predicates_failed {table : Table} {restriction : Restriction} {error : FilterError}
    (failed : restriction.compile table = .error error) (before after : List Restriction) :
    predicates table (before ++ restriction :: after) = predicates table (before ++ after) := by
  -- What fails to compile leaves no condition.
  simp [predicates, failed, Except.toOption]

/-- A condition has no SQL exactly if it places no constraint, and then it has no values.
Restrictions of a statement other than an insertion are conjoined with what it was restricted to: it
has a condition in its text exactly if one of them constrains rows, binds their values in order, and
selects the rows on which all those that constrain rows are true, whatever their order. A filter
that fails leaves the statement as it was. -/
theorem imposeAll_conjoins {statement : Statement}
    (filtered : ∀ columns rows, statement.action ≠ .insert columns rows) (backend : Backend)
    (restrictions : List Restriction) :
    let last := ((imposeAll restrictions).run statement).2
    (∀ predicate : Predicate, (predicate.fragment? backend = none ↔ predicate.isEmpty = true) ∧
      Fragment.values ((predicate.fragment? backend).getD []) = predicate.parameters ∧
      (predicate.isEmpty = true → predicate.parameters = [])) ∧
    Conjoins backend statement last (statement.filter :: predicates statement.table restrictions) ∧
    (∀ others : List Restriction, restrictions.Perm others → ∀ row,
      ((imposeAll others).run statement).2.filter.selects row = last.filter.selects row) ∧
    ∀ before filter after error, restrictions = before ++ .ofFilter filter :: after →
      filter.compile statement.table = .error error →
      let reached := ((imposeAll before).run statement).2
      reached.applyFilter filter = .error error ∧
      (ofFilter filter).impose.run.run reached = (.error error, reached) ∧
      last = ((imposeAll (before ++ after)).run statement).2 := by
  -- The conditions are those of the restrictions that do not fail, added to the filter in order.
  refine ⟨fun predicate => ⟨predicate.fragment?_eq_none backend, predicate.values_fragment? backend,
    Predicate.parameters_of_isEmpty⟩, ?_, fun others same => selects_perm same statement, ?_⟩
  · rw [imposeAll_eq]
    exact conjoins filtered backend _
  · rintro before filter after error rfl failed
    -- What is imposed before the filter does not change the table it is compiled for.
    have table : ((imposeAll before).run statement).2.table = statement.table := by
      rw [imposeAll_eq]
    have refused : ((imposeAll before).run statement).2.applyFilter filter = .error error := by
      rw [Statement.applyFilter, table, failed]
      rfl
    refine ⟨refused, by rw [impose_applyFilter, refused], ?_⟩
    -- What stands behind the filter is imposed as if it had not been there.
    have skipped := @predicates_failed statement.table (ofFilter filter) error failed before after
    rw [imposeAll_eq, imposeAll_eq, skipped]

/-- A query is restricted by a choice of nothing, a filter that fails, a test of a title, and a
number: it binds the number alone. -/
theorem imposeAll_conjoins_books :
    let statement := Statement.new .books .select
    let failing : Filter := .clause [.field "id" (.operators [(.greater, .list [.int 1])])]
    let restrictions : List Restriction := [.condition (.any []), .ofFilter failing,
      .condition (.isNull "title" true), .ofFilter (.clause [.field "id" (.equals (.int 1))])]
    let last := ((imposeAll restrictions).run statement).2
    (∀ columns rows, statement.action ≠ .insert columns rows) ∧
    Conjoins .postgres statement last [.anything, .any [], .isNull "title" true,
      .all [.compare "id" .equal (.int 1) false]] ∧
    (last.render .postgres).bound = #[.int 1] ∧
    (ofFilter failing).impose.run.run (statement.restrict (.any []))
      = (.error (Operator.mismatch .greater "id"), statement.restrict (.any [])) := by
  -- The four restrictions are imposed in turn, and the general result tells what comes of them.
  intro statement failing restrictions last
  have filtered : ∀ columns rows, statement.action ≠ .insert columns rows := by
    rintro columns rows ⟨⟩
  obtain ⟨-, conjoined, -, skipped⟩ := imposeAll_conjoins filtered .postgres restrictions
  have refused := (skipped [.condition (.any [])] failing _ _ rfl rfl).2.1
  exact ⟨filtered, conjoined, conjoined.bound, refused⟩

end Restriction

end RowFilter
