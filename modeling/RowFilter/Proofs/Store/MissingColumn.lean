import RowFilter.Proofs.Result
import RowFilter.Proofs.Statement.Names
import RowFilter.Proofs.Store.Sending
import RowFilter.Proofs.Store.Wording
import RowFilter.Store.Session

/-! How a store reports that its table lacks a column, by where a statement names the column. -/

namespace RowFilter

variable {σ α : Type}

namespace Statement

/-- The columns that an insertion lists. -/
def listedColumns (statement : Statement) : List String :=
  -- These columns are not looked up as the others are.
  match statement.action with
  | .insert columns _ => columns
  | _ => []

/-- The columns that a statement refers to, besides those that an insertion lists. -/
def referredColumns (statement : Statement) : List String :=
  -- Columns may be referred to by a choice, a condition, an order or an assignment.
  let projected := projectedNames statement.projection
  match statement.action with
  | .select => projected ++ statement.filter.columns ++ statement.order.map SortKey.column
  | .count => statement.filter.columns
  | .insert _ _ => projected
  | .update assignments => assignments.map Prod.fst ++ statement.filter.columns ++ projected
  | .delete => statement.filter.columns ++ projected

/-- A statement names its table, its columns and, if it counts, the number of rows. -/
theorem mem_names_iff {statement : Statement} {name : String} : name ∈ statement.names
    ↔ name = statement.table.name ∨ (statement.action = .count ∧ name = "count") ∨
      name ∈ statement.listedColumns ∨ name ∈ statement.referredColumns := by
  -- By the action, which decides where the columns stand.
  obtain ⟨table, action, projection, filter, order, page⟩ := statement
  cases action <;> simp [names, listedColumns, referredColumns] <;> tauto

/-- What SQLite objects to in a statement if its table lacks a column: the list of an insertion is
looked at before any reference. -/
def missingFault? (statement : Statement) (column : String) : Option Engine.Fault :=
  -- A column that stands in both places is reported for the list.
  if column ∈ statement.listedColumns then some (.noColumnNamed statement.table.name column)
  else if column ∈ statement.referredColumns then some (.noSuchColumn column)
  else none

end Statement

/-- Whether a database objects to a statement with a fault, however the rows are asked for. -/
structure Link.Objects (link : Link σ) (statement : Statement) (state : σ) (fault : Engine.Fault) :
    Prop where
  fetch : (link.fetch statement state).1 = .error (.driver fault.toFailure)
  cursor : (link.cursor statement state).1 = [.error (.driver fault.toFailure)]

namespace Store

/-- What may be asked of a store. -/
inductive Command where
  | find (options : FindOptions)
  | findOne (options : FindOneOptions)
  | count (filter : Option Filter)
  | stream (options : StreamOptions)
  | insert (data : Json) (projection : Projection)
  | update (data : Json) (options : ChangeOptions)
  | delete (options : ChangeOptions)

namespace Command

variable (store : Store) (link : Link σ) (model : RowModel α)

/-- The statements of a command, in the order in which they are sent, or why there are none. -/
def statements : Command → Except StoreError (List Statement)
  -- A change without a condition has no statement, and an insertion may have several.
  | .find options => (store.findStatement options).map ([·])
  | .findOne options => (store.findOneStatement options).map ([·])
  | .count filter => (store.countStatement filter).map ([·])
  | .stream options => (store.streamStatement options).map ([·])
  | .insert data projection => store.insertStatements data projection
  | .update data options => (store.updateStatement data options).map ([·])
  | .delete options => (store.deleteStatement options).map ([·])

/-- Whether a command fails with an error; a stream fails if the error is all that it gives. -/
def Fails (state : σ) (error : StoreError) : Command → Prop
  -- What the command yields is an error in one way or another.
  | .find options => (store.find link model options state).1 = .error error
  | .findOne options => (store.findOne link model options state).1 = .error error
  | .count filter => (store.count link filter state).1 = .error error
  | .stream options => (store.stream link model options state).1.items = [.error error]
  | .insert data projection => (store.insert link model data projection state).1 = .error error
  | .update data options => (store.update link model data options state).1 = .error error
  | .delete options => (store.delete link model options state).1 = .error error

/-- Whether a command comes to a statement: those that it sends before have been run and their rows
have been read, and the database is left in a given state. -/
def Reaches (command : Command) (state : σ) (statement : Statement) (between : σ) : Prop :=
  -- Only an insertion can have statements before and behind the one in question.
  ∃ done unsent rows, command.statements store = .ok (done ++ statement :: unsent) ∧
    store.runAll link model done state = (.ok rows, between)

end Command

variable {store : Store} {link : Link σ} {model : RowModel α} {statement : Statement}
  {state between : σ} {fault : Engine.Fault}

/-- A statement that the database objects to fails with the fault as it is classified. -/
theorem run_refused (objects : link.Objects statement state fault) :
    ∃ after, store.run link statement state
      = (.error (fault.toFailure.classify (store.queryText statement) store.backend), after) := by
  -- What is left of the database does not matter for the failure.
  refine ⟨(link.fetch statement state).2, ?_⟩
  simp only [run, objects.fetch]
  rfl

/-- An operation that runs one statement first fails as the statement does. -/
theorem runs_refused {β : Type} {made : Except StoreError Statement}
    (next : Statement → List Record → Operation σ β) (written : made = .ok statement)
    (objects : link.Objects statement state fault) :
    ((Operation.ofExcept made >>= fun own => store.run link own >>= next own) state).1
      = .error (fault.toFailure.classify (store.queryText statement) store.backend) := by
  -- The statement is made without the database, and the first thing done with it fails.
  obtain ⟨after, refused⟩ := @run_refused _ store _ _ _ _ objects
  have sent : (Operation.ofExcept made : Operation σ Statement) state = (.ok statement, state) := by
    rw [written]
    rfl
  rw [Operation.bind_of_ok sent, Operation.bind_of_error refused]

/-- Statements that are run in order fail as the first one does that the database objects to. -/
theorem runAll_refused {done unsent : List Statement} {rows : List α}
    (ran : store.runAll link model done state = (.ok rows, between))
    (objects : link.Objects statement between fault) :
    (store.runAll link model (done ++ statement :: unsent) state).1
      = .error (fault.toFailure.classify (store.queryText statement) store.backend) := by
  -- The statements before the one that fails are taken off one by one.
  induction done generalizing state rows with
  | nil =>
    -- The statement that fails is the first one, and those behind it are not run.
    cases ran
    obtain ⟨after, refused⟩ := @run_refused _ store _ _ _ _ objects
    have own : store.runRows link model .ignore statement between = (.error _, after) :=
      Operation.bind_of_error refused
    exact congrArg Prod.fst (Operation.bind_of_error own)
  | cons first done ih =>
    rw [List.cons_append, runAll]
    rw [runAll] at ran
    rcases own : store.runRows link model .ignore first state with ⟨error | given, middle⟩
    · rw [Operation.bind_of_error own] at ran
      cases ran
    · -- The rest goes on from the state that the first statement leaves.
      rw [Operation.bind_of_ok own] at ran ⊢
      rcases others : store.runAll link model done middle with ⟨error | more, after⟩
      · rw [Operation.bind_of_error others] at ran
        cases ran
      · rw [Operation.bind_of_ok others] at ran
        cases ran
        have failed := ih others
        rcases whole : store.runAll link model (done ++ statement :: unsent) middle
          with ⟨error | rows, last⟩
        · rw [whole] at failed
          cases failed
          rw [Operation.bind_of_error whole]
        · rw [whole] at failed
          cases failed

namespace Command

variable {command : Command}

/-- A command with one statement comes to no other, and to that one at once. -/
theorem statement_of_single {made : Except StoreError Statement} {done unsent : List Statement}
    (listed : made.map ([·]) = .ok (done ++ statement :: unsent)) :
    made = .ok statement ∧ done = [] := by
  -- There is room for this one statement only.
  obtain ⟨own, rfl, same⟩ := Result.map_ok listed
  cases done with
  | nil =>
    cases same
    exact ⟨rfl, rfl⟩
  | cons first done => simp at same

/-- A command fails as the statement does that it comes to and that the database objects to. -/
theorem Reaches.fails (reached : command.Reaches store link model state statement between)
    (objects : link.Objects statement between fault) :
    command.Fails store link model state
      (fault.toFailure.classify (store.queryText statement) store.backend) := by
  -- By the command, as each of them runs its statements in its own way.
  obtain ⟨done, unsent, rows, listed, ran⟩ := reached
  cases command with
  | insert data projection =>
    -- Only an insertion has statements before the one that fails.
    have made : store.insertStatements data projection = .ok (done ++ statement :: unsent) := listed
    rw [Fails, Store.insert, made]
    exact runAll_refused ran objects
  | stream options =>
    -- The cursor gives the failure and nothing else.
    obtain ⟨made, rfl⟩ := statement_of_single listed
    cases ran
    rw [Fails, Store.stream, made]
    simp only [objects.cursor]
    rfl
  | _ =>
    -- The other commands run their one statement as a whole.
    obtain ⟨made, rfl⟩ := statement_of_single listed
    cases ran
    exact runs_refused _ made objects

end Command

/-- On SQLite, a command that comes to a statement which names a missing column fails, and the error
has the text of this statement and the failure of the driver. If the statement refers to the column,
the column is told as missing by its name exactly if the name is plain. If the statement is an
insertion that lists the column, and the name of the table has no blanks, the column is never told
as missing: what is told is the message of the driver, if the name of the column has no blanks. -/
theorem missing_column_told (sqlite : store.backend = .sqlite) {command : Command} {column : String}
    (reached : command.Reaches store link model state statement between)
    (missing : statement.missingFault? column = some fault)
    (objects : link.Objects statement between fault) :
    let text := store.queryText statement
    let origin := Origin.driver fault.toFailure
    ∃ error, command.Fails store link model state error ∧
      error.queryText? = some text ∧ error.origin? = some origin ∧
      (column ∉ statement.listedColumns →
        (error = .columnNotFound column (some text) (some origin) ↔ IsPlainName column)) ∧
      (column ∈ statement.listedColumns → ' ' ∉ statement.table.name.toList →
        (∀ shown cause, error ≠ .columnNotFound column shown cause) ∧
        (' ' ∉ column.toList → error = .query fault.message (some text) (some origin))) := by
  -- The fault is classified by its wording, which is different for the two places of a column.
  intro text origin
  have failed := reached.fails objects
  have classified : fault.toFailure.classify text store.backend
      = Classification.byMessage (some (toString fault.code)) fault.message text origin := by
    rw [sqlite]
    rfl
  rw [classified] at failed
  obtain ⟨shown, caused⟩ :=
    Classification.byMessage_carries (some (toString fault.code)) fault.message text origin
  refine ⟨_, failed, shown, caused, fun unlisted => ?_, fun listed plain => ?_⟩
  · -- A reference has the wording that begins with its words and ends with the name.
    rw [Statement.missingFault?, if_neg unlisted] at missing
    split at missing
    · cases missing
      rw [Classification.byMessage_eq_columnNotFound, Missing.ofMessage?_noSuchColumn]
      simp
    · cases missing
  · -- An insertion is objected to before anything that it refers to is looked at.
    rw [Statement.missingFault?, if_pos listed] at missing
    cases missing
    have lowByte : (Engine.Fault.noColumnNamed statement.table.name column).code = 1 := rfl
    refine ⟨Classification.byMessage_noColumnNamed_ne plain column, fun solid => ?_⟩
    rw [lowByte]
    exact Classification.byMessage_noColumnNamed plain solid (by decide)

/-- A missing column that a query chooses is told by its name, and one that is inserted is not. -/
theorem missing_column_told_books :
    let table : Table := .booksWith "nope" .number (by decide)
    let store : Store := ⟨table, .sqlite, .default⟩
    let session : Session := .start .sqlite
      [.new "books" [⟨"id", .integer, true, false, false, false, .null, none⟩]]
    let one : Json := .integer ⟨1, by decide⟩
    let find : Command := .find ⟨.columns ["nope"], none, none, none, none, .ignore⟩
    let insert : Command := .insert (.object [("id", one), ("nope", one)]) .all
    (∃ error, find.Fails store (Session.link none) RowModel.record session error ∧
      ∃ query cause, error = .columnNotFound "nope" query cause) ∧
    ∃ error, insert.Fails store (Session.link none) RowModel.record session error ∧
      ∀ query cause, error ≠ .columnNotFound "nope" query cause := by
  -- The two commands are run up to their statements, which are the first ones.
  intro table store session one find insert
  have found : find.Reaches store (Session.link none) RowModel.record session _ session :=
    ⟨[], [], [], rfl, rfl⟩
  have inserted : insert.Reaches store (Session.link none) RowModel.record session _ session :=
    ⟨[], [], [], rfl, rfl⟩
  obtain ⟨error, failed, -, -, referred, -⟩ := @missing_column_told _ _ _ _ _ _ _ _
    (.noSuchColumn "nope") rfl _ "nope" found (by decide)
    ⟨by decide +kernel, by decide +kernel⟩
  obtain ⟨other, refused, -, -, -, listed⟩ := @missing_column_told _ _ _ _ _ _ _ _
    (.noColumnNamed "books" "nope") rfl _ "nope" inserted (by decide)
    ⟨by decide +kernel, by decide +kernel⟩
  have plain : IsPlainName "nope" :=
    ⟨by decide, by simp [Text.isBlank, Text.blankRanges], by decide, by decide⟩
  exact ⟨⟨error, failed, _, _, (referred (by decide)).mpr plain⟩, other, refused,
    (listed (by decide) (by decide)).1⟩

/-- A column that the database lacks is inserted, and what is told is a failed query. A column with
a blank in its name is chosen, and another column is told as missing. -/
theorem missing_column_told_not :
    let table : Table := .booksWith "nope" .number (by decide)
    let store : Store := ⟨table, .sqlite, .default⟩
    let relation : Engine.Relation :=
      .new "books" [⟨"id", .integer, true, false, false, false, .null, none⟩]
    let one : Json := .integer ⟨1, by decide⟩
    let link := Session.link none
    let session : Session := .start .sqlite [relation]
    (∀ column ∈ relation.columns, column.name ≠ "nope" ∧ column.name ≠ "a b") ∧
    (store.insert link RowModel.record (.object [("id", one), ("nope", one)]) .all session).1
      = .error (.query "table books has no column named nope"
          (some "INSERT INTO `books` (`id`, `nope`) VALUES (?, ?) RETURNING *")
          (some (.driver (Engine.Fault.noColumnNamed "books" "nope").toFailure))) ∧
    (store.find link RowModel.record ⟨.columns ["a b"], none, none, none, none, .ignore⟩ session).1
      = .error (.columnNotFound "a"
          (some "SELECT `a b` FROM `books` ORDER BY `id` ASC LIMIT 100 OFFSET 0")
          (some (.driver (Engine.Fault.noSuchColumn "a b").toFailure))) := by
  -- Both commands are run on a database whose one table lacks the columns.
  exact ⟨by decide, by decide +kernel, by decide +kernel⟩

end Store

end RowFilter
