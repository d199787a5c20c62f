import RowFilter.Proofs.Filter.Scope
import RowFilter.Proofs.Statement.Clause
import RowFilter.Proofs.Store.Sending

/-! Changes of rows are sent with a condition or not at all. -/

namespace RowFilter

open Sql Sql.Fragment

variable {σ α : Type}

namespace Predicate

/-- What a statement keeps of a condition: all of it, if it constrains rows at all. -/
def kept (predicate : Predicate) : Predicate :=
  -- A condition that excludes no row is not written, whatever its shape.
  if predicate.isEmpty then .anything else predicate

/-- What is kept of a condition constrains rows exactly if the condition does. -/
theorem isEmpty_kept (predicate : Predicate) : predicate.kept.isEmpty = predicate.isEmpty := by
  -- A condition without a constraint is exchanged for one that has none either.
  unfold kept
  split
  · rename_i empty
    rw [empty]
    rfl
  · rfl

/-- What is kept of a condition has the same clause. -/
theorem clause_kept (predicate : Predicate) (backend : Backend) :
    predicate.kept.clause backend = predicate.clause backend := by
  -- By whether the condition is kept as it is; without a constraint there is no clause.
  unfold kept
  split
  · rename_i empty
    rw [clause_of_isEmpty empty]
    rfl
  · rfl

end Predicate

namespace Store

variable {store : Store} {filter : Filter}

/-- A statement without a condition takes over that of a filter. -/
theorem filtered_ok {predicate : Predicate} {table : Table}
    (compiled : filter.compile table = .ok predicate) (action : Action) (projection : Projection)
    (order : List SortKey) (page : Option Page) :
    filtered ⟨table, action, projection, .anything, order, page⟩ (some filter)
      = .ok ⟨table, action, projection, predicate.kept, order, page⟩ := by
  -- The filter is applied to a statement that is not restricted yet.
  simp only [filtered, Statement.applyFilter, compiled]
  show Except.ok (if predicate.isEmpty = true then
      (⟨table, action, projection, .anything, order, page⟩ : Statement)
    else ⟨table, action, projection, Predicate.anything.and predicate, order, page⟩) = _
  unfold Predicate.kept
  split
  · rfl
  · -- There is nothing yet that the condition could be joined to.
    rename_i constrains
    unfold Predicate.and
    rw [if_neg constrains]
    rfl

/-- A filter that does not compile is reported in place of the statement. -/
theorem filtered_error {error : FilterError} {statement : Statement}
    (failed : filter.compile statement.table = .error error) :
    filtered statement (some filter) = .error (.filter error) := by
  -- The filter is compiled before the statement is touched.
  simp only [filtered, Statement.applyFilter, failed]
  rfl

/-- A change of rows keeps the condition of its filter if that constrains rows, and is refused
otherwise. -/
theorem narrowed_ok {predicate : Predicate} {table : Table}
    (compiled : filter.compile table = .ok predicate) (mutation : Mutation) (action : Action)
    (projection : Projection) (order : List SortKey) (page : Option Page) :
    narrowed mutation ⟨table, action, projection, .anything, order, page⟩ filter
      = if predicate.isEmpty then .error (.unscopedMutation mutation table.name)
        else .ok ⟨table, action, projection, predicate.kept, order, page⟩ := by
  -- The condition is applied as for a query, and then looked at.
  rw [narrowed, filtered_ok compiled]
  -- The guard asks what is kept of the condition, which is as empty as the condition.
  show (if !predicate.kept.isEmpty then _ else _) = _
  rw [predicate.isEmpty_kept]
  cases predicate.isEmpty <;> rfl

/-- A filter that does not compile is reported in place of the change. -/
theorem narrowed_error {error : FilterError} {mutation : Mutation} {statement : Statement}
    (failed : filter.compile statement.table = .error error) :
    narrowed mutation statement filter = .error (.filter error) := by
  -- The filter is compiled before the guard is asked.
  rw [narrowed, filtered_error failed]
  rfl

end Store

/-- A change of the rows that a filter selects: an update by an object with members, or a
removal. -/
inductive Change where
  | update (first : String × Json) (rest : List (String × Json))
  | delete

namespace Change

/-- The name that a change is refused by. -/
def mutation : Change → Mutation
  -- The name has no assignments in it, as the message tells none.
  | .update _ _ => .update
  | .delete => .delete

/-- What a change assigns to columns. -/
def assignments : Change → List (String × Json)
  -- An update has one assignment at least, and a removal none.
  | .update first rest => first :: rest
  | .delete => []

/-- What the statement of a change does. -/
def action : Change → Action
  -- The assignments stand in the statement in their order.
  | .update first rest => .update (first :: rest)
  | .delete => .delete

/-- The operation that makes a change. -/
def run (change : Change) (store : Store) (link : Link σ) (model : RowModel α)
    (options : ChangeOptions) : Operation σ (List α) :=
  -- What an update assigns comes as a document, as callers give it.
  match change with
  | .update first rest => store.update link model (.object (first :: rest)) options
  | .delete => store.delete link model options

/-- The statement of a change, or why there is none. -/
def statement (change : Change) (store : Store) (options : ChangeOptions) :
    Except StoreError Statement :=
  -- Changes are not ordered and not cut.
  Store.narrowed change.mutation
    ⟨store.table, change.action, options.projection, .anything, [], none⟩ options.filter

/-- The values that a change binds before those of its condition. -/
def bound (change : Change) : List Parameter :=
  -- Null is written out, and so it is not among them.
  change.assignments.filterMap fun assignment => Parameter.ofJson? assignment.2

/-- The text of a change in front of its condition. -/
def opening (change : Change) (backend : Backend) (table : Table) : String :=
  -- What is given back stands behind the condition, and so it is not here.
  match change with
  | .update first rest =>
    "UPDATE " ++ Statement.quotedText backend table.name ++ " SET "
      ++ Fragment.text backend (Statement.assigned table (first :: rest))
  | .delete => "DELETE FROM " ++ Statement.quotedText backend table.name

variable (change : Change)

/-- A change sends its statement. -/
theorem run_sendsOnce (store : Store) (model : RowModel α) (options : ChangeOptions) :
    Operation.SendsOnce (fun _ link => change.run store link model options)
      (change.statement store options) := by
  -- Both operations send one statement, which is made in the same way.
  cases change with
  | update first rest => exact store.update_sendsOnce model (.object (first :: rest)) options
  | delete => exact store.delete_sendsOnce model options

/-- A change as text: what is done to which table, the condition, counted behind the values that
are assigned, and the columns that are given back. -/
theorem render_eq (backend : Backend) (table : Table) (projection : Projection)
    (filter : Predicate) (order : List SortKey) (page : Option Page) :
    Statement.render backend ⟨table, change.action, projection, filter, order, page⟩
      = ⟨change.opening backend table
          ++ textFrom backend (1 + change.bound.length) (filter.clause backend) ++ " RETURNING "
          ++ Fragment.text backend projection.fragment,
        (change.bound ++ values (filter.clause backend)).toArray⟩ := by
  -- An update binds what it assigns, and a removal has nothing before its condition.
  cases change with
  | update first rest =>
    have assigned := Statement.values_assigned table (first :: rest)
    rw [action, Statement.render_update, assigned]
    rfl
  | delete =>
    rw [action, Statement.render_delete]
    rfl

/-- A change is refused without a trace exactly if its filter places no condition, and otherwise
sends one statement, which has tokens of a condition behind its WHERE. -/
theorem run_scoped (store : Store) (link : Link σ) (model : RowModel α) (options : ChangeOptions)
    (state : σ) {predicate : Predicate}
    (compiled : options.filter.compile store.table = .ok predicate) :
    (change.run store link.recorded model options (state, [])
        = (.error (.unscopedMutation change.mutation store.table.name), state, [])
      ↔ options.filter.IsConditionless) ∧
    (¬ options.filter.IsConditionless → ∃ statement condition tokens,
      (change.run store link.recorded model options (state, [])).2.2 = [statement] ∧
      (statement.render store.backend).text
        = change.opening store.backend store.table ++ " WHERE " ++ condition ++ " RETURNING "
          ++ Fragment.text store.backend options.projection.fragment ∧
      tokens? store.backend condition = some tokens ∧ tokens ≠ []) := by
  -- The change is refused exactly if its condition constrains nothing, which the filter tells.
  have once := change.run_sendsOnce store model options
  have made : change.statement store options = _ := Store.narrowed_ok compiled _ _ _ _ _
  rw [← Filter.isEmpty_compile compiled]
  cases empty : predicate.isEmpty with
  | true =>
    -- The guard refuses the change before the link is reached.
    rw [empty, if_pos rfl] at made
    exact ⟨iff_of_true (once.refused made link state) rfl, fun constrains => absurd rfl constrains⟩
  | false =>
    rw [empty, if_neg (by simp)] at made
    have sent := once.sent made link state
    obtain ⟨condition, written, clause⟩ :=
      @Predicate.clause_of_constrains store.backend predicate empty
    refine ⟨iff_of_false (fun refused => ?_) (by simp), fun _ => ?_⟩
    · -- A refused change would have sent nothing.
      rw [refused] at sent
      cases sent
    · refine ⟨_, textFrom store.backend (1 + change.bound.length) condition, _, sent, ?_,
        tokens?_textFrom (predicate.spaced_fragment? store.backend written) _,
        Predicate.numbered_ne_nil written _⟩
      rw [render_eq, Predicate.clause_kept, clause, textFrom_append]
      simp only [String.append_assoc]
      rfl

/-- Excluding nothing but null and looking for an empty text do not scope a change, and asking for a
missing value does. -/
theorem run_scoped_books :
    let store : Store := ⟨.books, .postgres, .default⟩
    let silent : Link Nat := ⟨fun _ count => (.ok [], count + 1), fun _ count => ([], count + 1)⟩
    let retitle := Change.update ("title", .string "?") []
    retitle.run store silent.recorded RowModel.record
        ⟨.all, .anyOf [[.field "id" (.operators [(.noneOf, .list [.null])])],
          [.search (.within .all (.text ""))]], .ignore⟩ (0, [])
      = (.error (.unscopedMutation .update "books"), 0, []) ∧
    ∃ statement condition tokens,
      (Change.delete.run store silent.recorded RowModel.record
        ⟨.all, .clause [.field "title" (.equals .null)], .ignore⟩ (0, [])).2.2 = [statement] ∧
      (statement.render store.backend).text
        = opening .delete .postgres .books ++ " WHERE " ++ condition ++ " RETURNING "
          ++ Fragment.text .postgres Projection.all.fragment ∧
      tokens? store.backend condition = some tokens ∧ tokens ≠ [] := by
  -- Both filters compile by computation, and so does what they place.
  intro store silent retitle
  constructor
  · refine (run_scoped retitle store silent RowModel.record _ 0 rfl).1.mpr ?_
    decide
  · refine (run_scoped .delete store silent RowModel.record
      ⟨.all, .clause [.field "title" (.equals .null)], .ignore⟩ 0 rfl).2 ?_
    decide

end Change

end RowFilter
