import RowFilter.Store.Operations

/-! The statements that an operation sends, by a link that keeps what it is given. -/

namespace RowFilter

variable {σ α β : Type}

/-- A link that also keeps each statement it is given, behind those it was given before. -/
def Link.recorded (link : Link σ) : Link (σ × List Statement) where
  -- The record is kept also if the statement fails, since it has been sent by then.
  fetch statement := fun (state, sent) =>
    let (result, after) := link.fetch statement state
    (result, after, sent ++ [statement])
  cursor statement := fun (state, sent) =>
    let (items, after) := link.cursor statement state
    (items, after, sent ++ [statement])

namespace Operation

/-- An operation that fails before it starts leaves the database alone, whatever would follow. -/
theorem ofExcept_error_bind (error : StoreError) (next : α → Operation σ β) (state : σ) :
    ((ofExcept (.error error) : Operation σ α) >>= next) state = (.error error, state) := rfl

/-- What follows an operation that succeeds goes on from the state that it left. -/
theorem bind_of_ok {first : Operation σ α} {next : α → Operation σ β} {value : α} {state after : σ}
    (ran : first state = (.ok value, after)) : (first >>= next) state = next value after := by
  -- Nothing is run between the two.
  simp only [Bind.bind, ExceptT.bind, ExceptT.mk, ExceptT.bindCont, StateT.bind, ran]

/-- A failure is passed on together with the state that it left. -/
theorem bind_of_error {first : Operation σ α} {next : α → Operation σ β} {error : StoreError}
    {state after : σ} (ran : first state = (.error error, after)) :
    (first >>= next) state = (.error error, after) := by
  -- What follows is not run at all.
  simp only [Bind.bind, ExceptT.bind, ExceptT.mk, ExceptT.bindCont, StateT.bind, ran]
  rfl

/-- What follows an operation and leaves the database alone adds nothing to what it has done. -/
theorem bind_state {next : α → Operation σ β}
    (quiet : ∀ value state, (next value state).2 = state) (first : Operation σ α) (state : σ) :
    ((first >>= next) state).2 = (first state).2 := by
  -- By whether the first one succeeds; if it does, the second one leaves what there is.
  rcases ran : first state with ⟨error | value, after⟩
  · rw [bind_of_error ran]
  · rw [bind_of_ok ran, quiet]

/-- Whether an operation over any link is about one statement: it hands that statement to its link
once and nothing else, and it fails without a trace if there is none. -/
def SendsOnce (operation : (τ : Type) → Link τ → Operation τ α) :
    Except StoreError Statement → Prop
  -- The links are all quantified over, so that nothing is known of what they answer.
  | .error error => ∀ τ (link : Link τ) state, operation τ link state = (.error error, state)
  | .ok statement =>
    ∀ τ (link : Link τ) state, (operation τ link state).2 = (link.fetch statement state).2

/-- An operation that makes a statement and then runs it is about that statement. -/
theorem sendsOnce_bind (made : Except StoreError Statement)
    {next : (τ : Type) → Link τ → Statement → Operation τ α}
    (runs : ∀ τ (link : Link τ) statement state,
      (next τ link statement state).2 = (link.fetch statement state).2) :
    SendsOnce (fun τ link => ofExcept made >>= next τ link) made := by
  -- By whether there is a statement; where there is none, nothing is run.
  cases made with
  | error error => exact fun τ link state => ofExcept_error_bind error (next τ link) state
  | ok statement => exact fun τ link state => runs τ link statement state

variable {operation : (τ : Type) → Link τ → Operation τ α} {made : Except StoreError Statement}

/-- An operation without a statement sends nothing. -/
theorem SendsOnce.refused (once : SendsOnce operation made) {error : StoreError}
    (failed : made = .error error) (link : Link σ) (state : σ) :
    operation _ link.recorded (state, []) = (.error error, state, []) := by
  -- An operation without a statement leaves the record of any link as it is, and so that of this
  -- one.
  rw [failed] at once
  exact once _ link.recorded (state, [])

/-- An operation about a statement sends that statement. -/
theorem SendsOnce.sent (once : SendsOnce operation made) {statement : Statement}
    (written : made = .ok statement) (link : Link σ) (state : σ) :
    (operation _ link.recorded (state, [])).2.2 = [statement] := by
  rw [written] at once
  -- The link has been given nothing before, and one statement by the operation.
  rw [once]
  rfl

end Operation

namespace Store

variable (store : Store) (model : RowModel α)

/-- Reading the rows of a statement hands nothing more to the link than the statement. -/
theorem runRows_state (link : Link σ) (onEmpty : EmptyPolicy) (statement : Statement) (state : σ) :
    (store.runRows link model onEmpty statement state).2 = (link.fetch statement state).2 :=
  -- The rows are read when the link has answered.
  Operation.bind_state (fun _ _ => rfl) (store.run link statement) state

/-- Finding a page of rows sends one statement. -/
theorem find_sendsOnce (options : FindOptions) :
    Operation.SendsOnce (fun _ link => store.find link model options)
      (store.findStatement options) :=
  -- The rows are all that is made of what the link answers.
  Operation.sendsOnce_bind _ fun _ link => store.runRows_state model link options.onEmpty

/-- Finding the first row sends one statement. -/
theorem findOne_sendsOnce (options : FindOneOptions) :
    Operation.SendsOnce (fun _ link => store.findOne link model options)
      (store.findOneStatement options) :=
  -- The first of the rows is taken when the link has answered.
  Operation.sendsOnce_bind _ fun _ link statement state =>
    Operation.bind_state (fun _ _ => rfl) (store.run link statement) state

/-- Counting rows sends one statement. -/
theorem count_sendsOnce (filter : Option Filter) :
    Operation.SendsOnce (fun _ link => store.count link filter) (store.countStatement filter) := by
  -- The number is taken from the one record that the link answers with.
  refine Operation.sendsOnce_bind _ fun _ link statement state =>
    Operation.bind_state (fun records _ => ?_) (store.run link statement) state
  -- Whether there is a number among the records is decided without the database.
  cases countOf? records <;> rfl

/-- Updating rows sends one statement. -/
theorem update_sendsOnce (data : Json) (options : ChangeOptions) :
    Operation.SendsOnce (fun _ link => store.update link model data options)
      (store.updateStatement data options) :=
  -- The assignments are looked at before there is a statement.
  Operation.sendsOnce_bind _ fun _ link => store.runRows_state model link options.onEmpty

/-- Removing rows sends one statement. -/
theorem delete_sendsOnce (options : ChangeOptions) :
    Operation.SendsOnce (fun _ link => store.delete link model options)
      (store.deleteStatement options) :=
  -- The guard is asked before there is a statement.
  Operation.sendsOnce_bind _ fun _ link => store.runRows_state model link options.onEmpty

/-- A stream of rows sends one statement, for its cursor. -/
theorem stream_sent {statement : Statement} (options : StreamOptions)
    (made : store.streamStatement options = .ok statement) (link : Link σ) (state : σ) :
    (store.stream link.recorded model options (state, [])).2.2 = [statement] := by
  -- The cursor is opened with the statement when the stream is made.
  rw [stream, made]
  rfl

/-- A stream without a statement sends nothing, and its only item is why. -/
theorem stream_refused {error : StoreError} (options : StreamOptions)
    (failed : store.streamStatement options = .error error) (link : Link σ) (state : σ) :
    store.stream link.recorded model options (state, []) = (.failed error, state, []) := by
  -- The link is not asked for a cursor.
  rw [stream, failed]

end Store

end RowFilter
