import RowFilter.Proofs.Store.Calls

/-! A transaction that many calls share is ended at most once, and nothing is sent after that. -/

namespace RowFilter

variable {κ : Type}

/-- Whether a message ends the transaction. -/
def Message.isEnding : Message → Bool
  -- Both ways to end count, whether the driver goes along with them or not.
  | .ending _ => true
  | .statement _ => false

/-- A handle whose connection was taken is finished. -/
theorem Transaction.take_finished {transaction : Transaction κ} :
    transaction.take.2.isFinished = true := by
  -- It is finished afterwards, whether or not the connection was there.
  rcases transaction with ⟨own, _ | connection⟩ <;> rfl

namespace SharedTransaction

/-- At most one ending has been sent, none while the transaction is open, and nothing after it. -/
def EndsOnce (state : SharedTransaction κ) : Prop :=
  -- The bound and the order together say that an ending is the last thing that is sent.
  state.sent.countP (·.2.isEnding) ≤ (if state.transaction.isFinished then 1 else 0) ∧
  state.sent.Pairwise fun earlier _ => earlier.2.isEnding = false

/-- Exactly the holder of the lock is at a stage that has it. -/
def Excludes (state : SharedTransaction κ) : Prop :=
  -- The lock has no holder if no call is at such a stage.
  ∀ caller, state.holder = some caller ↔
    ∃ call, state.calls[caller]? = some call ∧ call.stage.hasLock = true

/-- What can be sent in a turn: a native statement by a call that has the lock before and after it,
while the transaction is open, or an ending of a transaction that is finished. -/
inductive Sends (state after : SharedTransaction κ) : Prop where
  | nothing (same : after.sent = state.sent)
  | statement {caller : Nat} {call : Call κ} {statement : Statement}
      (found : state.calls[caller]? = some call)
      (next : call.errand.next? = some (state.transaction.backend, statement))
      (grown : after.sent = state.sent ++ [(caller, .statement statement)])
      (held : state.holder = some caller) (kept : after.holder = some caller)
      (present : after.transaction.isFinished = false)
  | ending {caller : Nat} {call : Call κ} {how : Ending}
      (found : state.calls[caller]? = some call) (errand : call.errand = .finish how)
      (grown : after.sent = state.sent ++ [(caller, .ending how)])
      (finished : state.transaction.isFinished = true)

/-- What a call has sent. -/
def sentBy (state : SharedTransaction κ) (caller : Nat) : List Message :=
  -- The messages of all calls stand in one list, in the order in which they were sent.
  (state.sent.filter (·.1 = caller)).map (·.2)

/-- Whether a call has failed with an error of the given kind, after it had sent some messages. -/
def Failed (caller : Nat) (kind : ErrorKind) (messages : List Message)
    (state : SharedTransaction κ) : Prop :=
  -- The messages are named, so that nothing can be added to them later.
  (∃ call, state.calls[caller]? = some call ∧ call.FailedWith kind) ∧
  state.sentBy caller = messages

/-- The transaction stays finished, and every call that has the lock and is about to look at the
connection fails when it does so and sends nothing more, whatever happens later. -/
def Refuses (state : SharedTransaction κ) : Prop :=
  -- A call that has yet to get the lock is refused when it looks, and not before.
  (∀ later, (state.run later).transaction.isFinished = true) ∧
  ∀ caller call, state.calls[caller]? = some call → call.stage = .holding →
    ∀ later, Failed caller .notConnected (state.sentBy caller)
      ((state.step (.event caller .advance)).run later)

/-- A call with a statement from a store of another backend has sent nothing, fails when it starts
unless it is dropped before, and nothing that happens to it changes what all calls share. -/
def Repels (state : SharedTransaction κ) : Prop :=
  -- It never gets as far as the lock, so that the others do not notice it.
  ∀ caller call, state.calls[caller]? = some call →
    call.errand.isForeign state.transaction.backend = true →
    (∀ message ∈ state.sent, message.1 ≠ caller) ∧
    (call.stage = .ready ∨ call.stage = .dropped ∨ call.FailedWith .invalidData) ∧
    (∀ event, ∃ after, state.step (.event caller event) =
      { state with calls := state.calls.set caller after }) ∧
    (call.stage = .ready → ∃ refused,
      (state.step (.event caller .advance)).calls[caller]? = some refused ∧
      refused.FailedWith .invalidData)

variable {state : SharedTransaction κ} {caller : Nat} {call after : Call κ} {effect : Effect}

/-- Only the call itself is put in its place. -/
@[simp] theorem put_calls :
    (state.put caller after effect).calls = state.calls.set caller after := by
  -- What is shared has the handle, the lock and the messages, and no effect reaches the calls.
  cases effect <;> rfl

/-- An event changes the call that it happens to, with an effect on what all calls share. -/
theorem step_event (found : state.calls[caller]? = some call) (event : Event) :
    state.step (.event caller event) = state.put caller
      (call.respond state.transaction state.holder.isNone event).1
      (call.respond state.transaction state.holder.isNone event).2 := by
  -- The call is the one that is found under its number.
  simp [step, found]

/-- Nothing happens to calls that were not issued. -/
theorem step_unknown (unknown : state.calls[caller]? = none) (event : Event) :
    state.step (.event caller event) = state := by
  -- There is no call to which the event could happen.
  simp [step, unknown]

/-- What holds of a state and survives every turn holds after every run. -/
theorem run_invariant (holds : SharedTransaction κ → Prop)
    (kept : ∀ state turn, holds state → holds (state.step turn)) (turns : List TransactionTurn)
    (initial : holds state) : holds (state.run turns) := by
  -- The turns are folded from the left, so that the state is quantified over.
  induction turns generalizing state with
  | nil => exact initial
  | cons turn rest ih => exact ih (kept state turn initial)

/-- A property that survives new calls and what calls do survives every turn. -/
theorem step_invariant (holds : SharedTransaction κ → Prop) (held : holds state)
    (issued : ∀ errand, holds { state with calls := state.calls ++ [⟨errand, .ready, []⟩] })
    (changed : ∀ {caller call} event, state.calls[caller]? = some call → holds (state.put caller
      (call.respond state.transaction state.holder.isNone event).1
      (call.respond state.transaction state.holder.isNone event).2))
    (turn : TransactionTurn) : holds (state.step turn) := by
  -- A turn issues a call, or something happens to one that may not be there.
  cases turn with
  | issue errand => exact issued errand
  | event caller event =>
    cases found : state.calls[caller]? with
    | none => rwa [step_unknown found]
    | some call =>
      rw [step_event found]
      exact changed event found

/-- The call in a place after another call was put somewhere. -/
theorem getElem?_put {other : Nat} (found : state.calls[caller]? = some call) :
    (state.put caller after effect).calls[other]? =
      if other = caller then some after else state.calls[other]? := by
  -- A call that was found is at a place of the list.
  have within : caller < state.calls.length := (List.getElem?_eq_some_iff.mp found).1
  rw [put_calls, List.getElem?_set]
  by_cases same : caller = other
  · rw [if_pos same, if_pos within, if_pos same.symm]
  · rw [if_neg same, if_neg (Ne.symm same)]

/-- The lock stays with one holder. -/
theorem Excludes.put (excludes : state.Excludes) (found : state.calls[caller]? = some call)
    (turn : call.Responds state.transaction state.holder.isNone after effect) :
    (state.put caller after effect).Excludes := by
  -- The turn says how the lock moves, and the call is the holder exactly if it has the lock.
  have lock := turn.lock
  have own : state.holder = some caller ↔ call.stage.hasLock = true := by
    simpa [found] using excludes caller
  intro other
  rw [getElem?_put found]
  by_cases same : other = caller
  · -- The caller is the holder after its turn exactly if it has the lock then.
    subst same
    simp only [if_true, Option.some.injEq, exists_eq_left']
    cases effect with
    | none => exact own.trans (by rw [lock])
    | send message => exact own.trans (by rw [lock])
    | acquire => simp [SharedTransaction.put, lock.2]
    | release => simp [SharedTransaction.put, lock.2]
    | take => simp [SharedTransaction.put, lock.2]
  · -- Nobody else gets the lock, and nobody else can have had it when it moves.
    have differs : caller ≠ other := Ne.symm same
    rw [if_neg same, ← excludes other]
    cases effect with
    | none => exact Iff.rfl
    | send message => exact Iff.rfl
    | acquire => simp [SharedTransaction.put, Option.isNone_iff_eq_none.mp lock.1, differs]
    | release => simp [SharedTransaction.put, own.mpr lock.1, differs]
    | take => simp [SharedTransaction.put, own.mpr lock.1, differs]

/-- A new call does not have the lock. -/
theorem Excludes.issue (excludes : state.Excludes) (errand : Errand) :
    (state.step (.issue errand)).Excludes := by
  -- The new call stands behind the others, whose numbers stay.
  intro other
  simp only [step]
  rw [excludes other, List.getElem?_append]
  split
  · exact Iff.rfl
  · -- The new call is ready, and has yet to ask for the lock.
    rename_i beyond
    have unknown : state.calls[other]? = none := by
      simpa using Nat.le_of_not_lt beyond
    rw [unknown]
    cases other - state.calls.length <;> simp [Stage.hasLock]

/-- The endings that were sent, those that calls can send that have taken the connection, and the one
that is possible while the connection is in the handle. -/
def endings (state : SharedTransaction κ) : Nat :=
  -- Each of these stands for one ending that is sent sooner or later.
  state.sent.countP (·.2.isEnding) + state.calls.countP (·.stage.isTaken) +
    (!state.transaction.isFinished).toNat

/-- What is counted among calls after one of them has changed. -/
theorem countP_set (counts : Call κ → Bool) (after : Call κ) {calls : List (Call κ)}
    (found : calls[caller]? = some call) :
    (calls.set caller after).countP counts + (counts call).toNat =
      calls.countP counts + (counts after).toNat := by
  -- The call that is replaced is taken off, and the one that replaces it is added.
  obtain ⟨within, own⟩ := List.getElem?_eq_some_iff.mp found
  have counted := List.boole_getElem_le_countP (p := counts) within
  rw [List.countP_set within]
  rw [own] at counted ⊢
  -- The old call is counted among all, and so nothing is lost where it is taken off.
  cases before : counts call <;> cases counts after <;>
    simp only [before, if_true, Bool.false_eq_true, if_false, Bool.toNat_true, Bool.toNat_false]
      at counted ⊢ <;> omega

/-- No turn of a call adds to the endings that are possible. -/
theorem endings_put (found : state.calls[caller]? = some call)
    (turn : call.Responds state.transaction state.holder.isNone after effect) :
    (state.put caller after effect).endings ≤ state.endings := by
  -- The turn says how the connection moves, and the three parts of the sum make up for each other.
  have connection := turn.connection
  have counted := countP_set (·.stage.isTaken) after found
  simp only [endings, put_calls]
  cases effect with
  | send message =>
    simp only [SharedTransaction.put, List.countP_append, List.countP_singleton]
    cases message with
    | statement statement =>
      -- A statement is no ending, and its call has not taken the connection.
      simp only [connection.2, Message.isEnding] at counted ⊢
      simp at counted ⊢
      omega
    | ending how =>
      -- The ending that a call could send is now one that was sent.
      simp only [connection.1, connection.2, Message.isEnding] at counted ⊢
      simp at counted ⊢
      omega
  | take =>
    -- The connection is now that of the call, and no longer in the handle.
    have gone : (state.transaction.take.2).isFinished = true := Transaction.take_finished
    have atMost := Bool.toNat_le after.stage.isTaken
    simp only [SharedTransaction.put, gone, connection.1, connection.2] at counted ⊢
    simp at counted ⊢
    omega
  | _ =>
    -- No call takes the connection, and no other message is sent.
    have fewer : after.stage.isTaken.toNat ≤ call.stage.isTaken.toNat := by
      cases taken : after.stage.isTaken with
      | false => exact Nat.zero_le _
      | true => simp [connection taken]
    simp only [SharedTransaction.put]
    omega

/-- What has been sent after a turn: what was sent before, and behind it what the turn sends. -/
theorem put_sent : (state.put caller after effect).sent = state.sent ++
    match effect with
    | .send message => [(caller, message)]
    | _ => [] := by
  -- Only sending reaches the messages.
  cases effect <;> simp [put]

/-- Whatever was sent after a turn of a call was sent before or by this call. -/
theorem mem_put_sent {message : Nat × Message}
    (sent : message ∈ (state.put caller after effect).sent) :
    message ∈ state.sent ∨ message.1 = caller := by
  -- The turn adds one message at most, which is its own.
  rw [put_sent] at sent
  rcases List.mem_append.mp sent with earlier | new
  · exact .inl earlier
  · split at new
    · exact .inr (by rw [List.mem_singleton.mp new])
    · cases new

/-- Nothing was sent that ends the transaction if it still can be ended. -/
theorem unended (once : state.endings ≤ 1)
    (possible : 0 < state.calls.countP (·.stage.isTaken) + (!state.transaction.isFinished).toNat) :
    ∀ message ∈ state.sent, message.2.isEnding = false := by
  -- The one ending that is possible has yet to be sent.
  have none : state.sent.countP (·.2.isEnding) = 0 := by
    unfold endings at once
    omega
  intro message sent
  exact Bool.eq_false_iff.mpr (List.countP_eq_zero.mp none message sent)

/-- Nothing is sent behind an ending. -/
theorem last_put (once : state.endings ≤ 1)
    (last : state.sent.Pairwise fun earlier _ => earlier.2.isEnding = false)
    (found : state.calls[caller]? = some call)
    (turn : call.Responds state.transaction state.holder.isNone after effect) :
    (state.put caller after effect).sent.Pairwise fun earlier _ => earlier.2.isEnding = false := by
  -- A call sends something only while an ending is still possible.
  have connection := turn.connection
  rw [put_sent, List.pairwise_append]
  cases effect with
  | send message =>
    have possible :
        0 < state.calls.countP (·.stage.isTaken) + (!state.transaction.isFinished).toNat := by
      cases message with
      | statement statement => simp [connection.1]
      | ending how =>
        -- The call itself is one that has taken the connection.
        have member : call ∈ state.calls := List.mem_of_getElem? found
        have counted : 0 < state.calls.countP (·.stage.isTaken) :=
          List.countP_pos_iff.mpr ⟨call, member, connection.1⟩
        omega
    exact ⟨last, by simp, fun earlier sent _ _ => unended once possible earlier sent⟩
  | _ => exact ⟨last, .nil, fun _ _ _ empty => by cases empty⟩

/-- What holds of a transaction with the given backend whatever turns its calls have taken. -/
structure Coherent (native : Backend) (state : SharedTransaction κ) : Prop where
  backend : state.transaction.backend = native
  excludes : state.Excludes
  once : state.endings ≤ 1
  last : state.sent.Pairwise fun earlier _ => earlier.2.isEnding = false
  known : ∀ message ∈ state.sent, message.1 < state.calls.length
  orderly : ∀ call ∈ state.calls, call.Orderly native
  silent : ∀ caller call, state.calls[caller]? = some call → call.errand.isForeign native = true →
    ∀ message ∈ state.sent, message.1 ≠ caller

/-- A turn leaves the backend. -/
theorem put_backend :
    (state.put caller after effect).transaction.backend = state.transaction.backend := by
  -- What is taken out of the handle is the connection alone.
  cases effect with
  | take => rcases state with ⟨⟨own, _ | connection⟩, holder, calls, sent⟩ <;> rfl
  | _ => rfl

variable {native : Backend}

/-- A new call changes nothing. -/
theorem Coherent.issue (coherent : state.Coherent native) (errand : Errand) :
    Coherent native { state with calls := state.calls ++ [⟨errand, .ready, []⟩] } where
  -- The new call is ready, and has neither the lock nor the connection nor sent anything.
  backend := coherent.backend
  excludes := coherent.excludes.issue errand
  once := by
    have untaken : (⟨errand, .ready, []⟩ : Call κ).stage.isTaken = false := rfl
    have once := coherent.once
    simpa [endings, untaken] using once
  last := coherent.last
  known := fun message sent => by
    have known := coherent.known message sent
    simp only [List.length_append]
    omega
  orderly := by
    intro call member
    rcases List.mem_append.mp member with earlier | new
    · exact coherent.orderly call earlier
    · rw [List.mem_singleton.mp new]
      exact Call.orderly_ready native errand
  silent := by
    intro caller call found foreign message sent
    have known := coherent.known message sent
    rw [List.getElem?_append] at found
    split at found
    · exact coherent.silent caller call found foreign message sent
    · omega

/-- What happens to a call leaves the transaction coherent. -/
theorem Coherent.event (coherent : state.Coherent native)
    (found : state.calls[caller]? = some call) (event : Event) :
    Coherent native (state.put caller
      (call.respond state.transaction state.holder.isNone event).1
      (call.respond state.transaction state.holder.isNone event).2) := by
  -- The turn of the call is known, and each part of the invariant has its own lemma.
  obtain rfl := coherent.backend
  have turn := Call.responds state.transaction state.holder.isNone call event
  have orderly : call.Orderly state.transaction.backend :=
    coherent.orderly call (List.mem_of_getElem? found)
  refine ⟨put_backend, coherent.excludes.put found turn,
    Nat.le_trans (endings_put found turn) coherent.once, last_put coherent.once coherent.last found turn,
    ?_, ?_, ?_⟩
  · intro message sent
    have within : caller < state.calls.length := (List.getElem?_eq_some_iff.mp found).1
    rw [put_calls, List.length_set]
    rcases mem_put_sent sent with earlier | own
    · exact coherent.known message earlier
    · rwa [own]
  · intro other member
    rw [put_calls] at member
    rcases List.mem_or_eq_of_mem_set member with earlier | rfl
    · exact coherent.orderly other earlier
    · exact orderly.respond event
  · intro other changed standing foreign message sent
    rw [getElem?_put found] at standing
    split at standing
    · -- The call is foreign itself, as a native one stays native, and it sends nothing.
      rename_i same
      subst same
      obtain rfl := Option.some.inj standing
      cases own : call.errand.isForeign state.transaction.backend with
      | false => exact absurd foreign (by simp [turn.native own])
      | true =>
        obtain ⟨after, unshared, -⟩ := orderly.respond_foreign own state.holder.isNone event
        rw [unshared] at sent
        exact coherent.silent _ call found own message sent
    · -- Any other call is as it was, and what is sent now is not sent by it.
      rename_i differs
      rcases mem_put_sent sent with earlier | own
      · exact coherent.silent other changed standing foreign message earlier
      · rw [own]
        exact Ne.symm differs

/-- A transaction without calls is coherent. -/
theorem coherent_start (transaction : Transaction κ) :
    Coherent transaction.backend (start transaction) where
  -- The one ending is that of the connection in the handle, if there is one.
  backend := rfl
  excludes := fun caller => by simp [start]
  once := by
    have one := Bool.toNat_le (!transaction.isFinished)
    simpa [endings, start] using one
  last := .nil
  known := by simp [start]
  orderly := by simp [start]
  silent := by simp [start]

/-- A transaction stays coherent, whatever turns its calls take. -/
theorem Coherent.run (coherent : state.Coherent native) (turns : List TransactionTurn) :
    (state.run turns).Coherent native :=
  -- Each turn issues a call or is an event, and both of them have been seen to.
  run_invariant (Coherent native) (fun _ turn held =>
    step_invariant _ held held.issue (fun event found => held.event found event) turn) turns coherent

/-- At most one ending is sent, behind everything else. -/
theorem Coherent.endsOnce (coherent : state.Coherent native) : state.EndsOnce := by
  -- Every ending that was sent is among those that are counted.
  refine ⟨?_, coherent.last⟩
  have once := coherent.once
  unfold endings at once
  cases finished : state.transaction.isFinished with
  | true =>
    rw [if_pos rfl]
    omega
  | false =>
    rw [finished, Bool.not_false, Bool.toNat_true] at once
    rw [if_neg Bool.false_ne_true]
    omega

/-- A call that has taken the connection leaves a handle that is finished. -/
theorem Coherent.finished_of_isTaken (coherent : state.Coherent native)
    (found : state.calls[caller]? = some call) (taken : call.stage.isTaken = true) :
    state.transaction.isFinished = true := by
  -- The ending that this call can send is the only one that is possible.
  have counted : 0 < state.calls.countP (·.stage.isTaken) :=
    List.countP_pos_iff.mpr ⟨call, List.mem_of_getElem? found, taken⟩
  have once := coherent.once
  unfold endings at once
  cases finished : state.transaction.isFinished with
  | true => rfl
  | false =>
    -- An open handle has the connection, which only one can have.
    rw [finished, Bool.not_false, Bool.toNat_true] at once
    omega

/-- What is sent in a turn is sent by the call that has the lock, or by the one that has taken the
connection. -/
theorem Coherent.sends (coherent : state.Coherent native) (turn : TransactionTurn) :
    Sends state (state.step turn) := by
  -- By what the call does in the turn; two of its turns send something.
  refine step_invariant (Sends state) (.nothing rfl) (fun errand => .nothing rfl) ?_ turn
  intro caller call event found
  have responds := Call.responds state.transaction state.holder.isNone call event
  generalize call.respond state.transaction state.holder.isNone event = result at responds
  rcases result with ⟨after, effect⟩
  cases responds with
  | @sends backend statement standing present next =>
    -- A call that looks at the connection has the lock, and so its store was let through.
    have held : call.stage.hasLock = true := by simp [standing, Stage.hasLock]
    have own : call.errand.isForeign native = false :=
      (coherent.orderly call (List.mem_of_getElem? found)).isForeign_of_hasLock held
    have same : backend = state.transaction.backend := by
      simpa [Errand.isForeign, next, coherent.backend] using own
    have holder : state.holder = some caller := (coherent.excludes caller).mpr ⟨call, found, held⟩
    rw [same] at next
    exact .statement found next rfl holder holder present
  | @finishes connection how standing errand =>
    -- The connection of the call is no longer in the handle.
    have taken : call.stage.isTaken = true := by simp [standing, Stage.isTaken]
    exact .ending found errand rfl (coherent.finished_of_isTaken found taken)
  | _ => exact .nothing rfl

/-- A finished transaction stays finished. -/
theorem finished_step (finished : state.transaction.isFinished = true) (turn : TransactionTurn) :
    (state.step turn).transaction.isFinished = true := by
  -- Nothing puts a connection back into the handle.
  refine step_invariant (fun after => after.transaction.isFinished = true) finished
    (fun _ => finished) ?_ turn
  intro caller call event found
  cases (call.respond state.transaction state.holder.isNone event).2 with
  | take => exact Transaction.take_finished
  | _ => exact finished

/-- A call sends nothing when another call takes a turn. -/
theorem sentBy_put_other {other : Nat} (differs : other ≠ caller) :
    (state.put caller after effect).sentBy other = state.sentBy other := by
  -- The messages that the turn adds are those of the other call.
  unfold sentBy
  rw [put_sent, List.filter_append]
  cases effect with
  | send message => simp [Ne.symm differs]
  | _ => simp

/-- A call sends nothing in a turn without a message. -/
theorem sentBy_put_silent {other : Nat} (silent : ∀ message, effect ≠ .send message) :
    (state.put caller after effect).sentBy other = state.sentBy other := by
  -- Without a message the turn adds nothing to what was sent.
  unfold sentBy
  rw [put_sent]
  cases effect with
  | send message => exact absurd rfl (silent message)
  | _ => simp

/-- A call that has failed stays so and sends nothing more in a turn. -/
theorem failed_step {kind : ErrorKind} {messages : List Message}
    (failed : Failed caller kind messages state) (turn : TransactionTurn) :
    Failed caller kind messages (state.step turn) := by
  -- A failed call does nothing more, and the others cannot change what it has sent.
  refine step_invariant (Failed caller kind messages) failed (fun errand => ?_) ?_ turn
  · -- A new call is issued behind the others.
    obtain ⟨⟨call, found, fails⟩, sent⟩ := failed
    have within : caller < state.calls.length := (List.getElem?_eq_some_iff.mp found).1
    exact ⟨⟨call, by rwa [List.getElem?_append_left within], fails⟩, sent⟩
  · intro other changed event standing
    obtain ⟨⟨call, found, fails⟩, sent⟩ := failed
    by_cases same : caller = other
    · -- What happens to the call itself leaves it failed.
      subst same
      obtain rfl := Option.some.inj (standing.symm.trans found)
      obtain ⟨still, silent⟩ := fails.respond state.transaction state.holder.isNone event
      exact ⟨⟨_, by rw [getElem?_put found, if_pos rfl], still⟩, (sentBy_put_silent silent).trans sent⟩
    · exact ⟨⟨call, by rwa [getElem?_put standing, if_neg same], fails⟩,
        (sentBy_put_other same).trans sent⟩

/-- A finished transaction refuses every call that gets the lock. -/
theorem Coherent.refuses (coherent : state.Coherent native)
    (finished : state.transaction.isFinished = true) : state.Refuses := by
  -- The handle stays finished, and the call fails at its next step.
  refine ⟨fun later => run_invariant (fun after => after.transaction.isFinished = true)
    (fun _ turn held => finished_step held turn) later finished, ?_⟩
  intro caller call found standing later
  have orderly := coherent.orderly call (List.mem_of_getElem? found)
  have fresh : call.given = [] := orderly.quiet (.inl (by simp [standing, Stage.isEarly]))
  obtain ⟨fails, silent⟩ := Call.look_finished finished fresh (orderly.busy (.inr standing))
  -- It fails in its next turn, and stays so in all turns behind that.
  refine run_invariant (Failed caller .notConnected (state.sentBy caller))
    (fun _ turn held => failed_step held turn) later ?_
  have looks : call.respond state.transaction state.holder.isNone .advance =
      call.look state.transaction := by
    simp [Call.respond, Call.advance, standing]
  rw [step_event found, looks]
  exact ⟨⟨_, by rw [getElem?_put found, if_pos rfl], fails⟩, sentBy_put_silent silent⟩

/-- Statements from a store of another backend are repelled. -/
theorem Coherent.repels (coherent : state.Coherent native) : state.Repels := by
  -- What is foreign has been refused, or will be as soon as it starts.
  intro caller call found foreign
  have orderly : call.Orderly state.transaction.backend := by
    rw [coherent.backend]
    exact coherent.orderly call (List.mem_of_getElem? found)
  refine ⟨coherent.silent caller call found (by rwa [← coherent.backend]), ?_, ?_, ?_⟩
  · -- The state tells that it is refused, and the turns below that this leaves the handle alone.
    rcases orderly.foreign foreign with ready | ⟨-, refused⟩
    · exact .inl ready
    · exact .inr refused
  · intro event
    obtain ⟨after, unshared, -⟩ := orderly.respond_foreign foreign state.holder.isNone event
    exact ⟨after, by rw [step_event found, unshared]; rfl⟩
  · intro ready
    have fresh : call.given = [] := orderly.quiet (.inl (by simp [ready, Stage.isEarly]))
    have starts : call.respond state.transaction state.holder.isNone .advance =
        (call.start state.transaction, .none) := by
      simp [Call.respond, Call.advance, ready]
    refine ⟨call.start state.transaction, ?_, (Call.start_foreign fresh foreign).1⟩
    rw [step_event found, starts, getElem?_put found, if_pos rfl]

/-- A handle finishes once, however the calls on its clones take turns and whatever is answered: at
most one ending is sent and nothing after it, every statement is sent by the one call that has the
lock while the connection is there, every call that gets the lock afterwards fails, and statements
from a store of another backend are refused and change nothing. -/
theorem finishes_once (transaction : Transaction κ) (turns : List TransactionTurn) :
    let state := (start transaction).run turns
    state.EndsOnce ∧ state.Excludes ∧ (∀ turn, Sends state (state.step turn)) ∧
    (state.transaction.isFinished = true → state.Refuses) ∧
    state.Repels ∧ state.transaction.backend = transaction.backend := by
  -- All of it is read off the invariant.
  have coherent := (coherent_start transaction).run turns
  exact ⟨coherent.endsOnce, coherent.excludes, coherent.sends, coherent.refuses, coherent.repels,
    coherent.backend⟩

/-- With books: a commit that fails in the driver has ended the transaction, a stream that gets the
lock afterwards gives one error, and so does a stream of a store of another backend when it starts. -/
theorem finishes_once_books :
    let count := Statement.new .books .count
    let turns : List TransactionTurn :=
      [.issue (.finish .commit), .issue (.stream .sqlite count), .issue (.stream .postgres count),
        .event 0 .advance, .event 1 .advance, .event 0 .advance, .event 1 .advance,
        .event 0 .advance, .event 0 .advance, .event 0 (.reply (.failed .workerCrashed)),
        .event 1 .advance]
    let state := (start ⟨.sqlite, some ()⟩).run turns
    state.sent = [(0, .ending .commit)] ∧
    Failed 1 .notConnected [] (state.step (.event 1 .advance)) ∧
    ∃ refused, (state.step (.event 2 .advance)).calls[2]? = some refused ∧
      refused.FailedWith .invalidData := by
  intro count turns state
  -- The commit is sent and fails, and the stream has the lock of a handle without connection.
  have reached : state = ⟨⟨.sqlite, none⟩, some 1,
      [⟨.finish .commit, .ended (some (DriverFailure.workerCrashed.classify "COMMIT" .sqlite)), []⟩,
        ⟨.stream .sqlite count, .holding, []⟩, ⟨.stream .postgres count, .ready, []⟩],
      [(0, .ending .commit)]⟩ := by
    simp [state, turns, SharedTransaction.run, step, start, SharedTransaction.put, Call.respond,
      Call.advance, Call.start, Call.look, Call.receive, Call.moved, Transaction.check,
      Transaction.take, Ending.word]
  obtain ⟨-, -, -, refuses, repels, -⟩ := finishes_once ⟨.sqlite, some ()⟩ turns
  change state.transaction.isFinished = true → state.Refuses at refuses
  change state.Repels at repels
  rw [reached] at refuses repels ⊢
  obtain ⟨-, -, -, refused⟩ := repels 2 _ rfl rfl
  exact ⟨rfl, (refuses rfl).2 1 _ rfl rfl [], refused rfl⟩

end SharedTransaction

end RowFilter
