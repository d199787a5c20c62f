import RowFilter.Store.Operations

/-! Streams as they run: a producer and a consumer that take turns in any order, and the bounded
channel between them. -/

namespace RowFilter

/-- Where a producer stands in its loop. -/
inductive Producer (α : Type) where
  /-- About to ask the cursor for an item. -/
  | pulling
  /-- Waiting for room in the channel. -/
  | sending (item : Except StoreError α)
  | stopped

/-- A stream as it runs, over a cursor with items of `β` and a mapping with a memory of `σ`. -/
structure StreamTask (σ β α : Type) where
  /-- What the cursor has not given yet. -/
  cursor : List (Except StoreError β)
  /-- What the mapping keeps from one row to the next. -/
  memory : σ
  producer : Producer α
  capacity : Nat
  /-- What is in the channel, where the first item is the oldest. -/
  queue : List (Except StoreError α)
  /-- Whether the consumer still has the stream. -/
  isHeld : Bool
  /-- What the polls have given that were ready, where none is the end of the stream. -/
  polled : List (Option (Except StoreError α))

/-- Whose turn it is, or that the consumer drops the stream. -/
inductive StreamTurn where
  | produce
  | poll
  | drop
deriving DecidableEq

variable {σ β α : Type}

/-- Where the producer goes on once an item is sent: an error is the last one. -/
def Producer.afterSending : Except StoreError α → Producer α
  -- Nothing is asked of the cursor behind an error.
  | .ok _ => .pulling
  | .error _ => .stopped

/-- An item of a cursor with a mapping applied to its row, and what the mapping keeps. -/
def mapItem (mapRow : σ → β → Except StoreError α × σ) (memory : σ) :
    Except StoreError β → Except StoreError α × σ
  -- A fault of the cursor does not reach the mapping.
  | .ok row => mapRow memory row
  | .error error => (.error error, memory)

/-- The items of a cursor with a mapping applied to its rows, in order. -/
def mapCursor (mapRow : σ → β → Except StoreError α × σ) :
    σ → List (Except StoreError β) → List (Except StoreError α)
  -- What the mapping keeps is handed from row to row.
  | _, [] => []
  | memory, given :: rest =>
    let (item, after) := mapItem mapRow memory given
    item :: mapCursor mapRow after rest

namespace StreamTask

/-- A stream over a cursor before the first turn; its channel has room for one item at least. -/
def spawn (cursor : List (Except StoreError β)) (memory : σ) (buffer : Nat) :
    StreamTask σ β α :=
  -- The producer starts with the cursor, and the channel is empty.
  ⟨cursor, memory, .pulling, max buffer 1, [], true, []⟩

/-- A stream whose only item is an error: it is in the channel already, and there is no producer. -/
def failed (error : StoreError) (memory : σ) : StreamTask σ β α :=
  -- The room makes no difference, since nothing is sent any more.
  ⟨[], memory, .stopped, 1, [.error error], true, []⟩

/-- The producer's turn: it takes an item from the cursor, or puts one into the channel. -/
def produce (mapRow : σ → β → Except StoreError α × σ) (task : StreamTask σ β α) :
    StreamTask σ β α :=
  match task.producer with
  | .pulling =>
    -- That the consumer is gone is noticed before the cursor is asked.
    if task.isHeld then
      match task.cursor with
      | [] => { task with producer := .stopped }
      | given :: rest =>
        let (item, memory) := mapItem mapRow task.memory given
        { task with cursor := rest, memory, producer := .sending item }
    else { task with producer := .stopped }
  | .sending item =>
    if task.isHeld then
      if task.queue.length < task.capacity then
        { task with queue := task.queue ++ [item], producer := .afterSending item }
      else task
    else { task with producer := .stopped }
  | .stopped => task

/-- The consumer's turn: it takes the oldest item, or the end if there is no producer any more. -/
def poll (task : StreamTask σ β α) : StreamTask σ β α :=
  -- A stream that is not held is not polled.
  if task.isHeld then
    match task.queue, task.producer with
    | item :: rest, _ => { task with queue := rest, polled := task.polled ++ [some item] }
    | [], .stopped => { task with polled := task.polled ++ [none] }
    -- While the producer lives, an empty channel tells nothing.
    | [], _ => task
  else task

/-- The consumer drops the stream, and the channel with all that is in it. -/
def drop (task : StreamTask σ β α) : StreamTask σ β α :=
  -- The producer learns of it when it sends.
  { task with queue := [], isHeld := false }

/-- One turn. -/
def step (mapRow : σ → β → Except StoreError α × σ) (task : StreamTask σ β α) :
    StreamTurn → StreamTask σ β α
  -- Only the producer needs the mapping.
  | .produce => task.produce mapRow
  | .poll => task.poll
  | .drop => task.drop

/-- Turns in some order. -/
def run (mapRow : σ → β → Except StoreError α × σ) (task : StreamTask σ β α)
    (turns : List StreamTurn) : StreamTask σ β α :=
  -- The order is that of the list.
  turns.foldl (step mapRow) task

/-- The items that the consumer has received. -/
def received (task : StreamTask σ β α) : List (Except StoreError α) := task.polled.filterMap id

/-- What a collector returns after some polls: the first error, or all rows at the end. -/
def collected : List (Option (Except StoreError α)) → Option (Except StoreError (List α))
  -- As long as no end and no error was polled, nothing is returned.
  | [] => none
  | none :: _ => some (.ok [])
  | some (.error error) :: _ => some (.error error)
  | some (.ok row) :: rest => (collected rest).map fun others => others.map (row :: ·)

/-- What an observer has been told after some polls: nothing more after an error or the end. -/
def observed : List (Option (Except StoreError α)) → List (StreamEvent α)
  -- The end and an error are told once, and what comes behind them is not told.
  | [] => []
  | none :: _ => [.finish]
  | some (.error error) :: _ => [.error error]
  | some (.ok row) :: rest => .row row :: observed rest

end StreamTask

namespace Store

/-- The mapping of a stream, which keeps nothing: the transform sees the restored record. -/
def streamMapping {α : Type} (store : Store) (model : RowModel α) (options : StreamOptions)
    (_ : Unit) (record : Record) : Except StoreError α × Unit :=
  -- The model is not told the statement.
  (model.read none ((options.transform.getD id) (record.restore store.backend store.table)), ())

/-- Starts to give all rows one by one; failures of the cursor are classified. -/
def startStream {σ α : Type} (store : Store) (link : Link σ) (options : StreamOptions) :
    StateM σ (StreamTask Unit Record α) := fun state =>
  match store.streamStatement options with
  -- A filter that does not compile gives a stream all the same.
  | .error error => (.failed error (), state)
  | .ok statement =>
    let (items, after) := link.cursor statement state
    let query := store.queryText statement
    let cursor := items.map fun item => item.mapError (·.translate query store.backend)
    (.spawn cursor () store.settings.streamBuffer.toNat, after)

end Store

end RowFilter
