import RowFilter.Proofs.Store.Grouping
import RowFilter.Proofs.Store.Sending

/-! An insertion that fails leaves a first part of its records behind, cut between two groups. -/

namespace RowFilter

variable {σ ρ α : Type}

/-- A database behind a driver: it runs a statement as a whole, and the driver reads each of the
rows that are given back as a record. -/
structure Driver (σ ρ : Type) where
  execute : Statement → σ → Except QueryFailure (List ρ) × σ
  record : ρ → Except QueryFailure Record

/-- The link to a database behind a driver: a row that is no record fails after the statement has
been run. -/
def Driver.link (driver : Driver σ ρ) : Link σ where
  -- A cursor gives the rows one by one, and so a row that fails does not hold back the others.
  fetch statement := fun state =>
    let (result, after) := driver.execute statement state
    (result >>= (·.mapM driver.record), after)
  cursor statement := fun state =>
    match driver.execute statement state with
    | (.ok rows, after) => (rows.map driver.record, after)
    | (.error failure, after) => ([.error failure], after)

/-- Whether inserted data is a record or a list of records, and which ones. -/
inductive Json.IsRecords : Json → List Record → Prop
  | one (record : Record) : IsRecords (.object record) [record]
  | many (records : List Record) : IsRecords (.array (records.map .object)) records

namespace Store

/-- A record is taken as it is, and a list of records is taken apart. -/
theorem insertedRecords_eq {data : Json} {records : List Record} (given : data.IsRecords records) :
    insertedRecords data = .ok records := by
  -- One record is read as a list of one.
  cases given with
  | one => rfl
  | many =>
    have each : List.Forall₂ (fun record item => insertedRecord item = .ok record) records
        (records.map Json.object) :=
      List.forall₂_map_right_iff.mpr (List.forall₂_same.mpr fun record _ => rfl)
    exact Result.mapM_of_forall₂ each

/-- A list with an item that is no record is refused. -/
theorem mapM_insertedRecord {items : List Json}
    (none : ∀ records : List Record, items ≠ records.map .object) :
    ∃ reason, items.mapM insertedRecord = .error (.invalidData reason) := by
  -- The first item that is no record ends the walk.
  induction items with
  | nil => exact absurd rfl (none [])
  | cons item rest ih =>
    rw [List.mapM_cons]
    cases item with
    | object record =>
      -- The item that is no record is behind the first one.
      have others : ∀ records : List Record, rest ≠ records.map .object := by
        rintro records rfl
        exact none (record :: records) rfl
      obtain ⟨reason, failed⟩ := ih others
      exact ⟨reason, by rw [failed]; rfl⟩
    | _ => exact ⟨_, rfl⟩

/-- Data that is no record and no list of records is refused. -/
theorem insertedRecords_refused {data : Json} (none : ∀ records, ¬ data.IsRecords records) :
    ∃ reason, insertedRecords data = .error (.invalidData reason) := by
  -- By the form of the data; an array may still have an item that is no record.
  cases data with
  | object record => exact absurd (.one record) (none [record])
  | array items =>
    refine mapM_insertedRecord ?_
    rintro records rfl
    exact none records (.many records)
  | _ => exact ⟨_, rfl⟩

variable (store : Store) (driver : Driver σ ρ) (model : RowModel α) (projection : Projection)

/-- Reads the rows that a statement has given back. -/
def readRows (statement : Statement) (rows : List ρ) : Except StoreError (List α) := do
  -- A driver may fail to read a row, and so may the model.
  let query := store.queryText statement
  let records ← (rows.mapM driver.record).mapError (·.translate query store.backend)
  records.mapM (store.readRow model query)

/-- How groups are inserted one after another without a failure: which rows each statement gives
back, and the state of the database behind the last one. -/
inductive Inserts : σ → List RowGroup → List (List α) → σ → Prop
  | nil {state : σ} : Inserts state [] [] state
  | cons {before between after : σ} {group : RowGroup} {groups : List RowGroup} {given : List ρ}
    {rows : List α} {more : List (List α)}
    (run : driver.execute (store.insertStatement projection group) before = (.ok given, between))
    (read : store.readRows driver model (store.insertStatement projection group) given = .ok rows)
    (rest : Inserts between groups more after) :
    Inserts before (group :: groups) (rows :: more) after

/-- How an insertion of groups ends: which of them are sent and which of these are stored, what the
operation gives back, and the state that the database is left in. -/
inductive Ends (before : σ) (groups : List RowGroup) :
    List RowGroup → List RowGroup → Except StoreError (List α) → σ → Prop
  | finished {rows : List (List α)} {after : σ}
    (inserted : Inserts store driver model projection before groups rows after) :
    Ends before groups groups groups (.ok rows.flatten) after
  /-- The statement of a group fails and stores nothing. -/
  | refused {done unsent : List RowGroup} {group : RowGroup} {rows : List (List α)}
    {between after : σ} {failure : QueryFailure}
    (split : groups = done ++ group :: unsent)
    (inserted : Inserts store driver model projection before done rows between)
    (failed : driver.execute (store.insertStatement projection group) between
      = (.error failure, after)) :
    Ends before groups (done ++ [group]) done
      (.error (failure.translate (store.queryText (store.insertStatement projection group))
        store.backend)) after
  /-- A group is stored, but the rows that its statement gives back cannot be read. -/
  | unread {done unsent : List RowGroup} {group : RowGroup} {rows : List (List α)}
    {between after : σ} {given : List ρ} {error : StoreError}
    (split : groups = done ++ group :: unsent)
    (inserted : Inserts store driver model projection before done rows between)
    (run : driver.execute (store.insertStatement projection group) between = (.ok given, after))
    (failed : store.readRows driver model (store.insertStatement projection group) given
      = .error error) :
    Ends before groups (done ++ [group]) (done ++ [group]) (.error error) after

variable {store driver model projection}

/-- An insertion does not object to a statement that gives no rows back. -/
theorem check_ignore (count : Nat) (query : String) :
    EmptyPolicy.ignore.check count query = .ok () := by
  -- Only the other policy fails, and it does so without rows.
  unfold EmptyPolicy.check
  split <;> rfl

variable {statement : Statement} {state after : σ}

/-- A statement that fails is the failure of its operation. -/
theorem runRows_refused {failure : QueryFailure} (sent : List Statement)
    (failed : driver.execute statement state = (.error failure, after)) :
    store.runRows driver.link.recorded model .ignore statement (state, sent)
      = (.error (failure.translate (store.queryText statement) store.backend), after,
          sent ++ [statement]) := by
  -- The failure is told with the text of the statement.
  refine Operation.bind_of_error ?_
  simp only [Store.run, Link.recorded, Driver.link, failed]
  rfl

/-- A statement is run as a whole before any of its rows is read. -/
theorem runRows_executed {rows : List ρ} (sent : List Statement)
    (executed : driver.execute statement state = (.ok rows, after)) :
    store.runRows driver.link.recorded model .ignore statement (state, sent)
      = (store.readRows driver model statement rows, after, sent ++ [statement]) := by
  -- The statement has been run, whatever becomes of its rows.
  have ran : store.run driver.link.recorded statement (state, sent)
      = ((rows.mapM driver.record).mapError (·.translate (store.queryText statement) store.backend),
          after, sent ++ [statement]) := by
    simp only [Store.run, Link.recorded, Driver.link, executed]
    rfl
  -- The driver reads all rows as records before the first record is read by the model.
  cases read : rows.mapM driver.record with
  | error failure =>
    rw [read] at ran
    rw [readRows, read]
    exact Operation.bind_of_error ran
  | ok records =>
    rw [read] at ran
    rw [readRows, read]
    refine (Operation.bind_of_ok ran).trans ?_
    simp only [Operation.ofExcept, check_ignore]
    rfl

/-- A group that is inserted in front of others ends as they do, and its rows come first. -/
theorem Ends.behind {before between : σ} {group : RowGroup} {groups sent kept : List RowGroup}
    {given : List ρ} {rows : List α} {result : Except StoreError (List α)}
    (run : driver.execute (store.insertStatement projection group) before = (.ok given, between))
    (read : store.readRows driver model (store.insertStatement projection group) given = .ok rows)
    (rest : Ends store driver model projection between groups sent kept result after) :
    Ends store driver model projection before (group :: groups) (group :: sent) (group :: kept)
      (result.map (rows ++ ·)) after := by
  -- By how the others have ended, in front of which the group is put.
  cases rest with
  | finished inserted => exact .finished (.cons run read inserted)
  | refused split inserted failed =>
    exact .refused (congrArg (group :: ·) split) (.cons run read inserted) failed
  | unread split inserted executed failed =>
    exact .unread (congrArg (group :: ·) split) (.cons run read inserted) executed failed

/-- The insertion of groups sends their statements in order, up to the first one that fails or whose
rows cannot be read. -/
theorem runAll_ends (groups : List RowGroup) (before : σ) (earlier : List Statement) :
    ∃ sent kept result after,
      Ends store driver model projection before groups sent kept result after ∧
      store.runAll driver.link.recorded model (groups.map (store.insertStatement projection))
          (before, earlier)
        = (result, after, earlier ++ sent.map (store.insertStatement projection)) := by
  -- The state of the database and what has been sent so far are quantified over.
  induction groups generalizing before earlier with
  | nil => exact ⟨[], [], _, before, .finished .nil, by rw [List.map_nil, List.append_nil]; rfl⟩
  | cons group groups ih =>
    rw [List.map_cons, runAll]
    rcases executed : driver.execute (store.insertStatement projection group) before
      with ⟨failure | given, between⟩
    · -- The statement of the first group fails, and nothing is done behind it.
      refine ⟨[group], [], _, between, .refused (List.nil_append _).symm .nil executed, ?_⟩
      exact Operation.bind_of_error (runRows_refused earlier executed)
    · have ran := @runRows_executed σ ρ α store driver model _ _ _ _ earlier executed
      cases read : store.readRows driver model (store.insertStatement projection group) given with
      | error error =>
        -- The group is in the database already when its rows turn out to be unreadable.
        rw [read] at ran
        exact ⟨[group], [group], _, between, .unread (List.nil_append _).symm .nil executed read,
          Operation.bind_of_error ran⟩
      | ok rows =>
        -- The other groups are inserted into what the first one leaves.
        rw [read] at ran
        obtain ⟨sent, kept, result, after, ends, rest⟩ :=
          ih between (earlier ++ [store.insertStatement projection group])
        refine ⟨_, _, _, after, ends.behind executed read, (Operation.bind_of_ok ran).trans ?_⟩
        rw [List.append_assoc] at rest
        cases result with
        | error error => exact Operation.bind_of_error rest
        | ok others => exact Operation.bind_of_ok rest

/-- Whether each insertion of a group that can be inserted stores all of its records or, if the
statement fails, none of them. -/
def StoresWhole (store : Store) (driver : Driver σ ρ) (projection : Projection)
    (stored : σ → List Record) : Prop :=
  -- The database has no more to promise than this, and nothing about rows that it gives back.
  ∀ group : RowGroup, group.Fits store.backend.maxParameters → ∀ before,
    match driver.execute (store.insertStatement projection group) before with
    | (.ok _, after) => stored after = stored before ++ group.records
    | (.error _, after) => stored after = stored before

namespace StoresWhole

variable {stored : σ → List Record} {group : RowGroup} {before : σ}

/-- A group whose statement succeeds is stored. -/
theorem executed (whole : StoresWhole store driver projection stored)
    (fits : group.Fits store.backend.maxParameters) {given : List ρ}
    (run : driver.execute (store.insertStatement projection group) before = (.ok given, after)) :
    stored after = stored before ++ group.records := by
  -- The promise is read off for this outcome.
  have own := whole group fits before
  rwa [run] at own

/-- A group whose statement fails is not stored. -/
theorem refused (whole : StoresWhole store driver projection stored)
    (fits : group.Fits store.backend.maxParameters) {failure : QueryFailure}
    (run : driver.execute (store.insertStatement projection group) before
      = (.error failure, after)) : stored after = stored before := by
  -- The promise is read off for this outcome.
  have own := whole group fits before
  rwa [run] at own

end StoresWhole

variable {stored : σ → List Record} {groups sent kept : List RowGroup}

/-- Groups that are inserted without a failure are all stored. -/
theorem Inserts.stores {before : σ} {rows : List (List α)}
    (whole : StoresWhole store driver projection stored)
    (fits : ∀ group ∈ groups, group.Fits store.backend.maxParameters)
    (inserted : Inserts store driver model projection before groups rows after) :
    stored after = stored before ++ groups.flatMap RowGroup.records := by
  -- By induction on the groups, each of which adds its records to those before.
  induction inserted with
  | nil => simp
  | cons run read rest ih =>
    obtain ⟨own, others⟩ := List.forall_mem_cons.mp fits
    rw [ih others, whole.executed own run, List.flatMap_cons, List.append_assoc]

/-- What an insertion of groups keeps is a first part of the groups, and just that is stored. -/
theorem Ends.stores {before : σ} {result : Except StoreError (List α)}
    (whole : StoresWhole store driver projection stored)
    (fits : ∀ group ∈ groups, group.Fits store.backend.maxParameters)
    (ends : Ends store driver model projection before groups sent kept result after) :
    kept <+: groups ∧ stored after = stored before ++ kept.flatMap RowGroup.records := by
  -- By how the insertion has ended, which says which groups came before the end.
  cases ends with
  | finished inserted => exact ⟨List.prefix_rfl, inserted.stores whole fits⟩
  | refused split inserted failed =>
    -- The group whose statement failed has left nothing behind.
    subst split
    obtain ⟨others, own⟩ := List.forall_mem_append.mp fits
    have last := whole.refused (List.forall_mem_cons.mp own).1 failed
    exact ⟨List.prefix_append .., last.trans (inserted.stores whole others)⟩
  | @unread done unsent group _ _ _ _ _ split inserted run failed =>
    -- The group whose rows could not be read is the last one that is kept.
    subst split
    obtain ⟨others, own⟩ := List.forall_mem_append.mp fits
    have last := whole.executed (List.forall_mem_cons.mp own).1 run
    refine ⟨⟨unsent, by simp⟩, ?_⟩
    rw [last, inserted.stores whole others, List.flatMap_append, List.append_assoc,
      List.flatMap_singleton]

/-- Data that is no record and no list of records is refused without a trace. The records of other
data are divided into groups, whose statements are sent in order up to the first one that fails or
whose rows cannot be read: with a database that stores each group as a whole, what is stored is a
first part of the groups, and so of the records in order, each value under its key. -/
theorem insert_keeps_groups (whole : StoresWhole store driver projection stored) {data : Json}
    (keyed : data.isWellKeyed = true) (before : σ) :
    ((∀ records, ¬ data.IsRecords records) → ∃ reason,
      store.insert driver.link.recorded model data projection (before, [])
        = (.error (.invalidData reason), before, [])) ∧
    ∀ records, data.IsRecords records →
      let groups := RowGroup.ofRecords store.backend.maxParameters records
      ∃ sent kept result after,
        store.insert driver.link.recorded model data projection (before, [])
          = (result, after, sent.map (store.insertStatement projection)) ∧
        Ends store driver model projection before groups sent kept result after ∧
        kept <+: groups ∧ stored after = stored before ++ kept.flatMap RowGroup.records ∧
        ∃ count, List.Forall₂ List.Perm (kept.flatMap RowGroup.records) (records.take count) := by
  -- What the data is decides whether anything is sent.
  refine ⟨fun none => ?_, fun records given => ?_⟩
  · -- Without records there are no statements, and the link is not reached.
    obtain ⟨reason, refused⟩ := insertedRecords_refused none
    have unmade : store.insertStatements data projection = .error (.invalidData reason) := by
      rw [insertStatements, refused]
      rfl
    refine ⟨reason, ?_⟩
    rw [insert, unmade]
    rfl
  · intro groups
    have distinct : ∀ record ∈ records, record.keys.Nodup := by
      cases given with
      | one =>
        intro record listed
        rw [List.mem_singleton.mp listed]
        exact (Json.isWellKeyed_object.mp keyed).1
      | many =>
        intro record listed
        have own := Json.isWellKeyed_array.mp keyed _ (List.mem_map_of_mem listed)
        exact (Json.isWellKeyed_object.mp own).1
    obtain ⟨same, fits, -⟩ := RowGroup.ofRecords_spec store.backend.maxParameters distinct
    have made : store.insertStatements data projection
        = .ok (groups.map (store.insertStatement projection)) := by
      rw [insertStatements, insertedRecords_eq given]
      rfl
    obtain ⟨sent, kept, result, after, ends, ran⟩ :=
      @runAll_ends σ ρ α store driver model projection groups before []
    obtain ⟨⟨unkept, split⟩, stores⟩ := ends.stores whole fits
    refine ⟨sent, kept, result, after, ?_, ends, ⟨unkept, split⟩, stores, ?_⟩
    · rw [insert, made]
      exact ran
    · -- The records of the groups that are kept come first among those of all groups.
      have first := List.forall₂_take (kept.flatMap RowGroup.records).length same
      rw [← split, List.flatMap_append, List.take_left] at first
      exact ⟨_, first⟩

/-- The second of three groups is refused: the two records before it are stored, and the record
behind it is not sent. A text stores and sends nothing. -/
theorem insert_keeps_groups_books :
    let store : Store := ⟨.books, .sqlite, .default⟩
    -- A row needs a title.
    let execute (statement : Statement) (stored : List Record) :=
      match statement.action with
      | .insert columns rows =>
        if "title" ∈ columns then
          (.ok (rows.map (columns.zip ·)), stored ++ rows.map (columns.zip ·))
        else (.error (.driver .poolClosed), stored)
      | _ => (.ok [], stored)
    let driver : Driver (List Record) Record := ⟨execute, .ok⟩
    let one : Json := .integer ⟨1, by decide⟩
    let first : Record := [("id", one), ("title", .string "a")]
    let records : List Record :=
      [first, [("title", .string "b"), ("id", one)], [("id", one)], [("title", .string "c")]]
    let data : Json := .array (records.map .object)
    let statements : List Statement := [⟨["id", "title"], [[one, .string "a"], [one, .string "b"]]⟩,
      ⟨["id"], [[one]]⟩].map (store.insertStatement .all)
    StoresWhole store driver .all id ∧ data.isWellKeyed = true ∧
    (∃ sent kept result after,
      store.insert driver.link.recorded RowModel.record data .all ([], [])
        = (result, after, sent.map (store.insertStatement .all)) ∧
      Ends store driver RowModel.record .all []
        (RowGroup.ofRecords store.backend.maxParameters records) sent kept result after ∧
      kept <+: RowGroup.ofRecords store.backend.maxParameters records ∧
      after = kept.flatMap RowGroup.records ∧
      ∃ count, List.Forall₂ List.Perm (kept.flatMap RowGroup.records) (records.take count)) ∧
    (∃ error, store.insert driver.link.recorded RowModel.record data .all ([], [])
      = (.error error, [first, [("id", one), ("title", .string "b")]], statements)) ∧
    ∃ reason, store.insert driver.link.recorded RowModel.record (.string "c") .all ([], [])
      = (.error (.invalidData reason), [], []) := by
  -- The groups are computed, and the database keeps its promise for each of them.
  intro store execute driver one first records data statements
  have whole : StoresWhole store driver .all id := by
    intro group fits before
    simp only [driver, execute, insertStatement, Statement.new]
    by_cases titled : "title" ∈ group.columns
    · simp only [titled, if_true]
      rfl
    · simp only [titled, if_false]
  have keyed : data.isWellKeyed = true := by decide
  have plain : ∀ records, ¬ (Json.string "c").IsRecords records := by rintro _ ⟨⟩
  have inserted := (@insert_keeps_groups _ _ _ store driver RowModel.record .all _ whole data keyed
    []).2 records (.many records)
  exact ⟨whole, keyed, inserted, ⟨_, rfl⟩,
    (@insert_keeps_groups _ _ _ store driver RowModel.record .all _ whole (.string "c") rfl []).1
      plain⟩

end Store

end RowFilter
