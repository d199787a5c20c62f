import RowFilter.Store.StreamTask

/-! Streams deliver their cursor in order and up to the first error, whoever takes which turn. -/

namespace RowFilter

variable {σ β α : Type}

namespace StreamTask

variable (mapRow : σ → β → Except StoreError α × σ)

/-- What the producer will still put into the channel. -/
def pending (task : StreamTask σ β α) : List (Except StoreError α) :=
  -- An item that waits for room has been mapped already.
  match task.producer with
  | .pulling => untilError (mapCursor mapRow task.memory task.cursor)
  | .sending item => untilError (item :: mapCursor mapRow task.memory task.cursor)
  | .stopped => []

/-- What is still to be received: what is in the channel, and what the producer will put there. -/
def remaining (task : StreamTask σ β α) : List (Except StoreError α) :=
  -- Once the stream is dropped, the channel is empty and nothing is put there any more.
  task.queue ++ task.pending mapRow

/-- What a turn of the producer can be. -/
inductive Produced (task : StreamTask σ β α) : StreamTask σ β α → Prop where
  | waits (idle : task.producer = .stopped ∨
      (∃ item, task.producer = .sending item) ∧ task.capacity ≤ task.queue.length) :
    Produced task task
  | leaves (dropped : task.isHeld = false) : Produced task { task with producer := .stopped }
  | finishes (standing : task.producer = .pulling) (empty : task.cursor = []) :
    Produced task { task with producer := .stopped }
  | pulls {given : Except StoreError β} {rest : List (Except StoreError β)}
      (standing : task.producer = .pulling) (next : task.cursor = given :: rest) :
    Produced task { task with
      cursor := rest
      memory := (mapItem mapRow task.memory given).2
      producer := .sending (mapItem mapRow task.memory given).1 }
  | sends {item : Except StoreError α} (standing : task.producer = .sending item)
      (room : task.queue.length < task.capacity) :
    Produced task { task with queue := task.queue ++ [item], producer := .afterSending item }

/-- What a turn of the consumer can be. -/
inductive Polled (task : StreamTask σ β α) : StreamTask σ β α → Prop where
  | waits (idle : task.isHeld = true → task.queue = [] ∧ task.producer ≠ .stopped) :
    Polled task task
  | takes {item : Except StoreError α} {rest : List (Except StoreError α)}
      (held : task.isHeld = true) (next : task.queue = item :: rest) :
    Polled task { task with queue := rest, polled := task.polled ++ [some item] }
  | finishes (held : task.isHeld = true) (empty : task.queue = [])
      (stopped : task.producer = .stopped) :
    Polled task { task with polled := task.polled ++ [none] }

/-- The producer takes one of its turns. -/
theorem produced (task : StreamTask σ β α) : Produced mapRow task (task.produce mapRow) := by
  -- By where the producer stands, and by whether anyone still holds the stream.
  unfold produce
  split
  · rename_i standing
    split
    · split
      · exact .finishes standing (by assumption)
      · exact .pulls standing (by assumption)
    · exact .leaves (by simpa using (by assumption : ¬ task.isHeld = true))
  · rename_i item standing
    split
    · split
      · exact .sends standing (by assumption)
      · exact .waits (.inr ⟨⟨item, standing⟩, by omega⟩)
    · exact .leaves (by simpa using (by assumption : ¬ task.isHeld = true))
  · exact .waits (.inl (by assumption))

/-- The consumer takes one of its turns. -/
theorem polled_poll (task : StreamTask σ β α) : Polled task task.poll := by
  -- By what the channel holds; it is empty for good only behind a producer that has stopped.
  unfold poll
  split
  · rename_i held
    split
    · exact .takes held (by assumption)
    · exact .finishes held (by assumption) (by assumption)
    · rename_i empty standing
      exact .waits fun _ => ⟨empty, standing⟩
  · rename_i dropped
    exact .waits fun held => absurd held dropped

/-- What a stream that is to deliver some items has done after some turns: it has delivered a first
part of them and the end only after all of them, and while it is held the others remain. -/
structure Delivers (whole : List (Except StoreError α)) (task : StreamTask σ β α) : Prop where
  within : task.received <+: whole
  kept : task.isHeld = true → task.received ++ task.remaining mapRow = whole
  order : ∃ ends, task.polled = task.received.map some ++ List.replicate ends none ∧
    (0 < ends → task.received = whole)
  room : task.queue.length ≤ task.capacity

variable {mapRow} {whole : List (Except StoreError α)} {task after : StreamTask σ β α}

/-- A turn of the producer leaves the consumer alone, and keeps the channel within its capacity. -/
theorem Produced.frame (turn : Produced mapRow task after) :
    after.polled = task.polled ∧ after.isHeld = task.isHeld ∧ after.capacity = task.capacity ∧
    (task.queue.length ≤ task.capacity → after.queue.length ≤ after.capacity) := by
  -- By what the producer does; only sending adds to the channel, and it waits for room.
  cases turn with
  | sends standing room => exact ⟨rfl, rfl, rfl, fun _ => by simp; omega⟩
  | _ => exact ⟨rfl, rfl, rfl, id⟩

/-- A turn of the producer leaves what is still to be received. -/
theorem Produced.remaining (turn : Produced mapRow task after) (held : task.isHeld = true) :
    after.remaining mapRow = task.remaining mapRow := by
  -- By what the producer does: an item moves on, and what remains is the same.
  cases turn with
  | waits => rfl
  | leaves dropped => exact absurd held (by simp [dropped])
  | finishes standing empty =>
    simp [StreamTask.remaining, pending, standing, empty, mapCursor, untilError]
  | pulls standing next =>
    -- The item is mapped when it is taken, and its place among the mapped items stays the same.
    simp [StreamTask.remaining, pending, standing, next, mapCursor]
  | @sends item standing =>
    -- What follows an error is cut off, as the producer stops.
    cases item <;>
      simp [StreamTask.remaining, pending, standing, Producer.afterSending, untilError]

namespace Delivers

/-- A turn of the producer keeps what has been delivered and what remains. -/
theorem produce (delivers : Delivers mapRow whole task) (turn : Produced mapRow task after) :
    Delivers mapRow whole after := by
  -- The consumer has received nothing new, and nothing that is to come is lost.
  obtain ⟨polled, held, -, room⟩ := turn.frame
  have received : after.received = task.received := congrArg (List.filterMap id) polled
  refine ⟨received ▸ delivers.within, fun still => ?_, ?_, room delivers.room⟩
  · rw [held] at still
    rw [received, turn.remaining still]
    exact delivers.kept still
  · rw [polled, received]
    exact delivers.order

/-- A turn of the consumer takes the first item that remains, or the end when there is none. -/
theorem poll (delivers : Delivers mapRow whole task) (turn : Polled task after) :
    Delivers mapRow whole after := by
  -- By what the consumer does, of which only the first two change anything.
  obtain ⟨within, kept, ⟨ends, order, last⟩, room⟩ := delivers
  cases turn with
  | waits => exact ⟨within, kept, ⟨ends, order, last⟩, room⟩
  | @takes item rest held next =>
    -- An item that remains is not received yet, so that the end has not been polled.
    have parts : task.received ++ item :: (rest ++ task.pending mapRow) = whole := by
      simpa [StreamTask.remaining, next] using kept held
    have early : ends = 0 := by
      refine Nat.eq_zero_of_not_pos fun ended => ?_
      have long := congrArg List.length (parts.trans (last ended).symm)
      simp at long
    have received : (task.polled ++ [some item]).filterMap id = task.received ++ [item] := by
      simp [StreamTask.received]
    refine ⟨?_, fun _ => ?_, ⟨0, ?_, fun some => absurd some (Nat.lt_irrefl 0)⟩, ?_⟩
    · show (task.polled ++ [some item]).filterMap id <+: whole
      rw [received]
      exact ⟨rest ++ task.pending mapRow, by simpa using parts⟩
    · show (task.polled ++ [some item]).filterMap id ++ (rest ++ task.pending mapRow) = whole
      rw [received]
      simpa using parts
    · show task.polled ++ [some item] = ((task.polled ++ [some item]).filterMap id).map some ++ []
      rw [received, order, early]
      simp
    · rw [next] at room
      exact Nat.le_of_succ_le room
  | finishes held empty stopped =>
    -- Nothing remains, so that everything has been received.
    have all : task.received = whole := by
      simpa [StreamTask.remaining, pending, empty, stopped] using kept held
    have received : (task.polled ++ [none]).filterMap id = task.received := by
      simp [StreamTask.received]
    refine ⟨?_, fun _ => ?_, ⟨ends + 1, ?_, fun _ => received.trans all⟩, room⟩
    · show (task.polled ++ [none]).filterMap id <+: whole
      rw [received]
      exact within
    · show (task.polled ++ [none]).filterMap id ++ task.remaining mapRow = whole
      rw [received]
      exact kept held
    · show task.polled ++ [none]
        = ((task.polled ++ [none]).filterMap id).map some ++ List.replicate (ends + 1) none
      rw [received, List.replicate_succ', ← List.append_assoc, ← order]

/-- Dropping the stream leaves what has been delivered. -/
theorem drop (delivers : Delivers mapRow whole task) : Delivers mapRow whole task.drop :=
  -- The channel is emptied, and nothing is known to remain any more.
  ⟨delivers.within, fun held => Bool.noConfusion held, delivers.order, Nat.zero_le _⟩

/-- Each turn keeps what has been delivered and what remains. -/
theorem step (delivers : Delivers mapRow whole task) (turn : StreamTurn) :
    Delivers mapRow whole (task.step mapRow turn) := by
  -- By the turn, each of which has been seen to.
  cases turn with
  | produce => exact delivers.produce (produced mapRow task)
  | poll => exact delivers.poll (polled_poll task)
  | drop => exact delivers.drop

/-- Turns in any order keep what has been delivered and what remains. -/
theorem run (delivers : Delivers mapRow whole task) (turns : List StreamTurn) :
    Delivers mapRow whole (task.run mapRow turns) := by
  -- The turns are folded from the left, so that the stream is quantified over.
  induction turns generalizing task with
  | nil => exact delivers
  | cons turn rest ih => exact ih (delivers.step turn)

/-- A stream before its first turn is to deliver what remains. -/
theorem start (fresh : task.polled = []) (room : task.queue.length ≤ task.capacity) :
    Delivers mapRow (task.remaining mapRow) task := by
  -- Nothing has been polled, so that all is still to come.
  have received : task.received = [] := congrArg (List.filterMap id) fresh
  refine ⟨?_, fun _ => ?_, ⟨0, ?_, fun some => absurd some (Nat.lt_irrefl 0)⟩, room⟩
  · rw [received]
    exact List.nil_prefix
  · rw [received]
    rfl
  · rw [fresh, received]
    rfl

/-- A stream over a cursor is to deliver its items, with the mapping applied, up to an error. -/
theorem spawn (cursor : List (Except StoreError β)) (memory : σ) (buffer : Nat) :
    Delivers mapRow (untilError (mapCursor mapRow memory cursor))
      (StreamTask.spawn cursor memory buffer) :=
  -- The channel starts empty, and the producer has the whole cursor before it.
  have room : ([] : List (Except StoreError α)).length ≤ max buffer 1 := Nat.zero_le _
  show Delivers mapRow (StreamTask.remaining mapRow (.spawn cursor memory buffer)) _ from
    .start rfl room

end Delivers

/-! The end is reached. -/

/-- How much a producer and a consumer have to do before the end. -/
def work (task : StreamTask σ β α) : Nat :=
  -- An item weighs three in the cursor, two while it is sent and one in the channel; a producer that
  -- goes on weighs one.
  3 * task.cursor.length + task.queue.length + match task.producer with
    | .pulling => 1
    | .sending _ => 3
    | .stopped => 0

/-- A turn of the consumer leaves the producer alone, and adds no work. -/
theorem Polled.frame (turn : Polled task after) :
    after.isHeld = task.isHeld ∧ after.capacity = task.capacity ∧ after.work ≤ task.work := by
  -- By what the consumer does; an item that is taken leaves the channel.
  cases turn with
  | waits => exact ⟨rfl, rfl, Nat.le_refl _⟩
  | takes held next => exact ⟨rfl, rfl, by simp [work, next]⟩
  | finishes => exact ⟨rfl, rfl, Nat.le_refl _⟩

/-- A turn of the producer of a stream that is held takes work off, unless it has to wait. -/
theorem Produced.work_lt (turn : Produced mapRow task after) (held : task.isHeld = true) :
    after.work < task.work ∨ after = task ∧ (task.producer = .stopped ∨
      (∃ item, task.producer = .sending item) ∧ task.capacity ≤ task.queue.length) := by
  -- By what the producer does; what it does takes work off, so that it cannot go on for ever.
  cases turn with
  | waits idle => exact .inr ⟨rfl, idle⟩
  | leaves dropped => exact absurd held (by simp [dropped])
  | finishes standing empty => exact .inl (by simp [work, standing])
  | pulls standing next =>
    refine .inl ?_
    simp only [work, standing, next, List.length_cons]
    omega
  | @sends item standing =>
    refine .inl ?_
    cases item <;> simp [work, standing, Producer.afterSending] <;> omega

/-- A turn of each side takes work off, or the end has been polled. -/
theorem work_produce_poll (mapRow : σ → β → Except StoreError α × σ) (held : task.isHeld = true)
    (room : 0 < task.capacity) :
    (task.produce mapRow).poll.isHeld = true ∧
    (task.produce mapRow).poll.capacity = task.capacity ∧
    (none ∈ (task.produce mapRow).poll.polled ∨
      (task.produce mapRow).poll.work < task.work) := by
  -- The producer has taken its turn when the consumer takes the next one.
  obtain ⟨-, same, bound, -⟩ := (produced mapRow task).frame
  have turn := polled_poll (task.produce mapRow)
  obtain ⟨kept, size, less⟩ := turn.frame
  refine ⟨kept.trans (same.trans held), size.trans bound, ?_⟩
  rcases (produced mapRow task).work_lt held with fewer | ⟨waited, idle⟩
  · exact .inr (Nat.lt_of_le_of_lt less fewer)
  · -- A producer that waits has stopped, or the channel is full; there is something to poll.
    rw [waited] at turn ⊢
    generalize task.poll = after at turn
    cases turn with
    | waits nothing =>
      obtain ⟨empty, running⟩ := nothing held
      rcases idle with stopped | ⟨-, full⟩
      · exact absurd stopped running
      · rw [empty] at full
        exact absurd room (Nat.not_lt.mpr full)
    | takes held next => exact .inr (by simp [work, next])
    | finishes => exact .inl (by simp)

/-- A stream that is held comes to its end if both sides take their turns. -/
theorem exists_end (mapRow : σ → β → Except StoreError α × σ) (task : StreamTask σ β α)
    (held : task.isHeld = true) (room : 0 < task.capacity) :
    ∃ rounds,
      none ∈ (task.run mapRow (List.replicate rounds [.produce, .poll]).flatten).polled := by
  -- Each round takes work off, until a poll finds the producer stopped and the channel empty.
  induction left : task.work using Nat.strongRecOn generalizing task with
  | ind amount ih =>
    obtain ⟨kept, size, ended | fewer⟩ := work_produce_poll mapRow held room
    · exact ⟨1, ended⟩
    · obtain ⟨rounds, ended⟩ := ih _ (left ▸ fewer) _ kept (size ▸ room) rfl
      exact ⟨rounds + 1, ended⟩

/-- The producer of a stream that has been dropped stops at its next turn. -/
theorem stopped_of_dropped (mapRow : σ → β → Except StoreError α × σ) {task : StreamTask σ β α}
    (dropped : task.isHeld = false) : (task.produce mapRow).producer = .stopped := by
  -- Where it stands, it looks for whoever holds the stream before anything else.
  unfold produce
  split <;> simp_all

/-- Turns leave the capacity of the channel. -/
theorem capacity_run (mapRow : σ → β → Except StoreError α × σ) (task : StreamTask σ β α)
    (turns : List StreamTurn) : (task.run mapRow turns).capacity = task.capacity := by
  -- By induction on the turns, none of which changes the channel itself.
  induction turns generalizing task with
  | nil => rfl
  | cons turn rest ih =>
    refine (ih (task.step mapRow turn)).trans ?_
    cases turn with
    | produce => exact (produced mapRow task).frame.2.2.1
    | poll => exact (polled_poll task).frame.2.1
    | drop => rfl

end StreamTask

end RowFilter
