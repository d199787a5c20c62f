import RowFilter.Store.Operations
import RowFilter.Store.Transaction

/-! A transaction behind a lock that all clones of its handle share: a call waits for the lock, sends
its statement while it has the lock, and gives the lock up. Calls take their steps in any order. What
a driver does by itself with a connection that it gets back is no message of a call. -/

namespace RowFilter

/-- How a transaction is ended. -/
inductive Ending where
  | commit
  | rollback
deriving DecidableEq

/-- The statement of an ending, as errors name it. -/
def Ending.word : Ending → String
  -- These are no statements of a store, and have no rendering.
  | .commit => "COMMIT"
  | .rollback => "ROLLBACK"

/-- What is sent over the connection of a transaction. -/
inductive Message where
  | statement (statement : Statement)
  | ending (how : Ending)

/-- What a driver answers to a message: rows as a whole or one by one, the end, or a failure. -/
inductive Reply where
  | rows (records : List Record)
  | row (record : Record)
  | done
  | failed (failure : DriverFailure)

/-- What a call on a handle is for. -/
inductive Errand where
  /-- An operation of a store with the given backend runs statements one by one, as long as nothing is
  wrong with their rows. -/
  | operation (backend : Backend) (check : Statement → List Record → Except StoreError Unit)
      (statements : List Statement)
  | stream (backend : Backend) (statement : Statement)
  | finish (how : Ending)

/-- Where a call on a handle with connections `κ` stands. -/
inductive Stage (κ : Type) where
  /-- About to start, or to go on with its next statement. -/
  | ready
  | waiting
  /-- Has the lock, and has not looked at the connection yet. -/
  | holding
  /-- Has the lock, and waits for answers to its statement. -/
  | running
  /-- Has the lock, and nothing more to give. -/
  | closing
  /-- Has the connection that it took out of the handle, and no lock. -/
  | taken (connection : κ)
  /-- Has sent the ending, and waits for the answer. -/
  | finishing
  | ended (failure : Option StoreError)
  | dropped

/-- Whether a call has the lock at a stage. -/
def Stage.hasLock {κ : Type} : Stage κ → Bool
  -- The lock is had from when it is given until the statement is answered or the stream let go of.
  | .holding | .running | .closing => true
  | _ => false

/-- A call on a handle. -/
structure Call (κ : Type) where
  errand : Errand
  stage : Stage κ
  /-- What a stream has given. -/
  given : List (Except StoreError Record)

/-- What a step of a call does to what all calls share. -/
inductive Effect where
  | none
  | acquire
  | release
  | send (message : Message)
  /-- Takes the connection out of the handle and gives the lock up. -/
  | take

/-- What can happen to a call. -/
inductive Event where
  | advance
  | reply (reply : Reply)
  /-- The caller lets go of the call before it has ended. -/
  | cancel

variable {κ : Type}

namespace Call

/-- The call at another stage. -/
def moved (call : Call κ) (stage : Stage κ) : Call κ := { call with stage }

/-- The stream that gives one more item. -/
def giving (call : Call κ) (item : Except StoreError Record) : Call κ :=
  -- What a stream has given stays given.
  { call with given := call.given ++ [item] }

/-- The error for a failure of a statement of a store with the given backend. -/
def errorOf (backend : Backend) (statement : Statement) (failure : QueryFailure) : StoreError :=
  -- The error quotes the statement with the quotes of its own store.
  failure.translate (statement.render backend).text backend

/-- The call when it starts with a statement: it waits for the lock, unless the store has another
backend. An operation fails with the refusal, and a stream gives it. -/
def start (transaction : Transaction κ) (call : Call κ) : Call κ :=
  -- The backend is compared before the lock is waited for.
  match call.errand with
  | .operation _ _ [] => call.moved (.ended none)
  | .operation backend _ (statement :: _) =>
    match transaction.check backend with
    | .ok () => call.moved .waiting
    | .error error => call.moved (.ended (some (errorOf backend statement (.classified error))))
  | .stream backend statement =>
    match transaction.check backend with
    | .ok () => call.moved .waiting
    | .error error =>
      (call.giving (.error (errorOf backend statement (.classified error)))).moved (.ended none)
  | .finish _ => call.moved .waiting

/-- The call when it looks at the connection: it sends its statement or takes the connection, and
fails if the transaction is finished. -/
def look (transaction : Transaction κ) (call : Call κ) : Call κ × Effect :=
  match call.errand with
  | .operation _ _ [] => (call.moved (.ended none), .release)
  | .operation backend _ (statement :: _) =>
    match transaction.held with
    | .ok _ => (call.moved .running, .send (.statement statement))
    | .error error =>
      (call.moved (.ended (some (errorOf backend statement (.classified error)))), .release)
  | .stream backend statement =>
    match transaction.held with
    | .ok _ => (call.moved .running, .send (.statement statement))
    | .error error =>
      -- The lock goes when the stream is asked for another item or dropped.
      ((call.giving (.error (errorOf backend statement (.classified error)))).moved .closing, .none)
  | .finish _ =>
    match transaction.take.1 with
    | .ok connection => (call.moved (.taken connection), .take)
    | .error error => (call.moved (.ended (some error)), .release)

/-- The next step of a call, where the lock may be free. -/
def advance (transaction : Transaction κ) (isFree : Bool) (call : Call κ) : Call κ × Effect :=
  -- A call only moves on where nothing has to be awaited.
  match call.stage with
  | .ready => (call.start transaction, .none)
  | .waiting => if isFree then (call.moved .holding, .acquire) else (call, .none)
  | .holding => call.look transaction
  | .closing => (call.moved (.ended none), .release)
  | .taken _ =>
    match call.errand with
    | .finish how => (call.moved .finishing, .send (.ending how))
    | _ => (call, .none)
  | .running | .finishing | .ended _ | .dropped => (call, .none)

/-- The call when its statement is answered. -/
def answered (call : Call κ) (reply : Reply) : Call κ × Effect :=
  -- Only a stream keeps the lock over more than one answer.
  match call.errand, reply with
  | .operation backend check (statement :: rest), .rows records =>
    match check statement records with
    | .ok () => ({ call with errand := .operation backend check rest, stage := .ready }, .release)
    | .error error => (call.moved (.ended (some error)), .release)
  | .operation backend _ (statement :: _), .failed failure =>
    (call.moved (.ended (some (errorOf backend statement (.driver failure)))), .release)
  | .stream _ _, .row record => (call.giving (.ok record), .none)
  | .stream backend statement, .failed failure =>
    (call.giving (.error (errorOf backend statement (.driver failure))), .none)
  | .stream _ _, .done => (call.moved (.ended none), .release)
  | _, _ => (call, .none)

/-- The call when a message of it is answered. -/
def receive (transaction : Transaction κ) (call : Call κ) (reply : Reply) : Call κ × Effect :=
  -- An answer that does not belong to the stage is passed over.
  match call.stage, call.errand, reply with
  | .running, _, _ => call.answered reply
  | .finishing, .finish _, .done => (call.moved (.ended none), .none)
  | .finishing, .finish how, .failed failure =>
    (call.moved (.ended (some (failure.classify how.word transaction.backend))), .none)
  | _, _, _ => (call, .none)

/-- The call when its caller lets go of it. -/
def cancel (call : Call κ) : Call κ × Effect :=
  -- A call that has ended cannot be let go of.
  match call.stage with
  | .ended _ => (call, .none)
  | stage => (call.moved .dropped, if stage.hasLock then .release else .none)

/-- The call after an event, and what the event does to what all calls share. -/
def respond (transaction : Transaction κ) (isFree : Bool) (call : Call κ) :
    Event → Call κ × Effect
  -- Only an advance depends on the lock.
  | .advance => call.advance transaction isFree
  | .reply reply => call.receive transaction reply
  | .cancel => call.cancel

end Call

/-- A turn: a call is issued on one of the clones, or something happens to a call. -/
inductive TransactionTurn where
  | issue (errand : Errand)
  | event (caller : Nat) (event : Event)

/-- A transaction with the lock in front of it, and all calls on the clones of its handle. -/
structure SharedTransaction (κ : Type) where
  transaction : Transaction κ
  /-- The call that has the lock. -/
  holder : Option Nat
  calls : List (Call κ)
  /-- What has been sent over the connection, with the calls that sent it. -/
  sent : List (Nat × Message)

namespace SharedTransaction

/-- A transaction without calls. -/
def start (transaction : Transaction κ) : SharedTransaction κ := ⟨transaction, none, [], []⟩

/-- Puts a call in the place of what it was, with an effect on what all calls share. -/
def put (state : SharedTransaction κ) (caller : Nat) (call : Call κ) (effect : Effect) :
    SharedTransaction κ :=
  -- The holder is the caller itself, so that a release frees its own lock.
  let after := { state with calls := state.calls.set caller call }
  match effect with
  | .none => after
  | .acquire => { after with holder := some caller }
  | .release => { after with holder := none }
  | .send message => { after with sent := state.sent ++ [(caller, message)] }
  | .take => { after with transaction := state.transaction.take.2, holder := none }

/-- One turn. -/
def step (state : SharedTransaction κ) : TransactionTurn → SharedTransaction κ
  -- A new call comes last, and the place of a call never changes.
  | .issue errand => { state with calls := state.calls ++ [⟨errand, .ready, []⟩] }
  | .event caller event =>
    -- An event for nobody changes nothing.
    match state.calls[caller]? with
    | none => state
    | some call =>
      let (after, effect) := call.respond state.transaction state.holder.isNone event
      state.put caller after effect

/-- Turns in some order. -/
def run (state : SharedTransaction κ) (turns : List TransactionTurn) : SharedTransaction κ :=
  -- The order is that of the list, and nothing happens between turns.
  turns.foldl step state

end SharedTransaction

end RowFilter
