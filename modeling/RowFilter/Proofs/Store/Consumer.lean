import RowFilter.Proofs.Result
import RowFilter.Proofs.Store.Delivery

/-! What collectors and observers get from a stream, however its producer and they take turns. -/

namespace RowFilter

variable {σ β α : Type}

namespace RowStream

/-- A list of rows that may be followed by an error, which is the last item then. -/
def itemsOf (rows : List α) (failure : Option StoreError) : List (Except StoreError α) :=
  -- Every run of a stream comes to this, as nothing is delivered behind an error.
  rows.map .ok ++ failure.toList.map .error

/-- Up to the first error there are rows, and then there is at most one error. -/
theorem exists_untilError (items : List (Except StoreError α)) :
    ∃ rows failure, untilError items = itemsOf rows failure := by
  -- By induction on the items, up to the first error.
  induction items with
  | nil => exact ⟨[], none, rfl⟩
  | cons item rest ih =>
    cases item with
    | error error => exact ⟨[], some error, rfl⟩
    | ok row =>
      obtain ⟨rows, failure, same⟩ := ih
      exact ⟨row :: rows, failure, congrArg (Except.ok row :: ·) same⟩

/-- A collector returns all rows, or the error that follows them. -/
theorem collect_itemsOf (rows : List α) (failure : Option StoreError) :
    collect ⟨itemsOf rows failure⟩
      = match failure with
        | none => .ok rows
        | some error => .error error := by
  -- By induction on the rows, behind which the error stands if there is one.
  induction rows with
  | nil => cases failure <;> rfl
  | cons row rest ih =>
    -- A row is added to what the rest is collected to, and an error passes.
    have later : (itemsOf rest failure).mapM id = _ := ih
    show (Except.ok row :: itemsOf rest failure).mapM id = _
    rw [List.mapM_cons, later]
    cases failure <;> rfl

/-- An observer is told all rows, and then the error that follows them or the end. -/
theorem notifications_itemsOf (rows : List α) (failure : Option StoreError) :
    notifications ⟨itemsOf rows failure⟩
      = rows.map .row ++ [match failure with
        | none => .finish
        | some error => .error error] := by
  -- By induction on the rows, each of which is told by itself.
  induction rows with
  | nil => cases failure <;> rfl
  | cons row rest ih => exact congrArg (StreamEvent.row row :: ·) ih

/-- A first part with an error is the whole, as the error is the last item. -/
theorem eq_of_error_mem {rows : List α} {failure : Option StoreError}
    {received : List (Except StoreError α)} {error : StoreError}
    (within : received <+: itemsOf rows failure) (listed : .error error ∈ received) :
    received = itemsOf rows failure := by
  -- By induction on the rows, along which the first part keeps up with the whole.
  induction rows generalizing received with
  | nil =>
    -- Only the error itself is left, if there is one.
    cases failure with
    | none => exact List.prefix_nil.mp within
    | some last =>
      rcases List.prefix_cons_iff.mp within with rfl | ⟨rest, rfl, behind⟩
      · cases listed
      · exact congrArg _ (List.prefix_nil.mp behind)
  | cons row rows ih =>
    rcases List.prefix_cons_iff.mp within with rfl | ⟨rest, rfl, behind⟩
    · cases listed
    · have later : .error error ∈ rest := by simpa using listed
      exact congrArg _ (ih behind later)

end RowStream

namespace StreamTask

variable {mapRow : σ → β → Except StoreError α × σ} {whole : List (Except StoreError α)}
variable {task : StreamTask σ β α}

/-- Once an error or the end has been polled, a collector has what the items say. -/
theorem collected_itemsOf (rows : List α) (failure : Option StoreError) {ends : Nat}
    (closed : failure = none → 0 < ends) :
    collected ((RowStream.itemsOf rows failure).map some ++ List.replicate ends none)
      = some (RowStream.collect ⟨RowStream.itemsOf rows failure⟩) := by
  -- By induction on the rows; the last poll tells whether there is more to come.
  rw [RowStream.collect_itemsOf]
  induction rows with
  | nil =>
    cases failure with
    | some error => rfl
    | none =>
      obtain ⟨more, rfl⟩ := Nat.exists_eq_add_one_of_ne_zero (Nat.ne_of_gt (closed rfl))
      rfl
  | cons row rest ih =>
    show (collected ((RowStream.itemsOf rest failure).map some ++ List.replicate ends none)).map
      (fun others => others.map (row :: ·)) = _
    rw [ih]
    cases failure <;> rfl

/-- Once an error or the end has been polled, an observer has been told what the items say. -/
theorem observed_itemsOf (rows : List α) (failure : Option StoreError) {ends : Nat}
    (closed : failure = none → 0 < ends) :
    observed ((RowStream.itemsOf rows failure).map some ++ List.replicate ends none)
      = RowStream.notifications ⟨RowStream.itemsOf rows failure⟩ := by
  -- By induction on the rows, each of which has been told when it was polled.
  induction rows with
  | nil =>
    cases failure with
    | some error => rfl
    | none =>
      obtain ⟨more, rfl⟩ := Nat.exists_eq_add_one_of_ne_zero (Nat.ne_of_gt (closed rfl))
      rfl
  | cons row rest ih => exact congrArg (StreamEvent.row row :: ·) ih

/-- Before that an observer has been told of a first part of the rows. -/
theorem observed_map_within {rows : List α} {failure : Option StoreError}
    {received : List (Except StoreError α)} (within : received <+: RowStream.itemsOf rows failure) :
    observed (received.map some)
      <+: RowStream.notifications ⟨RowStream.itemsOf rows failure⟩ := by
  -- By induction on the rows, along which the first part keeps up with the whole.
  induction rows generalizing received with
  | nil =>
    cases failure with
    | none =>
      rw [List.prefix_nil.mp within]
      exact List.nil_prefix
    | some last =>
      rcases List.prefix_cons_iff.mp within with rfl | ⟨rest, rfl, behind⟩
      · exact List.nil_prefix
      · rw [List.prefix_nil.mp behind]
        exact List.prefix_rfl
  | cons row rows ih =>
    rcases List.prefix_cons_iff.mp within with rfl | ⟨rest, rfl, behind⟩
    · exact List.nil_prefix
    · exact List.prefix_cons_inj _ |>.mpr (ih behind)

namespace Delivers

variable {rows : List α} {failure : Option StoreError}

/-- The end is polled only after all items. -/
theorem received_of_ended (delivers : Delivers mapRow whole task) (ended : none ∈ task.polled) :
    task.received = whole := by
  -- What is polled is the items and then the end, again and again.
  obtain ⟨ends, order, last⟩ := delivers.order
  refine last (Nat.pos_of_ne_zero fun early => ?_)
  rw [order, early] at ended
  simp at ended

/-- Nothing is received after an error. -/
theorem nothing_after_error (delivers : Delivers mapRow (RowStream.itemsOf rows failure) task)
    {before after : List (Except StoreError α)} {error : StoreError}
    (received : task.received = before ++ .error error :: after) : after = [] := by
  -- What is received is a first part of the items, whose only error is the last of them.
  have within := delivers.within
  rw [received] at within
  -- The items up to the error are all that there are.
  have listed : .error error ∈ before ++ [.error error] := by simp
  have short : before ++ [.error error] = RowStream.itemsOf rows failure :=
    RowStream.eq_of_error_mem (List.IsPrefix.trans ⟨after, by simp⟩ within) listed
  have long := within.length_le
  rw [← short] at long
  simpa using long

/-- Consumers are done once an error or the end has been polled, and have what the items say. -/
theorem finished (delivers : Delivers mapRow (RowStream.itemsOf rows failure) task)
    (done : none ∈ task.polled ∨ ∃ error, .error error ∈ task.received) :
    collected task.polled = some (RowStream.collect ⟨RowStream.itemsOf rows failure⟩) ∧
    observed task.polled = RowStream.notifications ⟨RowStream.itemsOf rows failure⟩ := by
  -- Either sign says that all items have been received.
  obtain ⟨ends, order, -⟩ := delivers.order
  have all : task.received = RowStream.itemsOf rows failure := by
    rcases done with ended | ⟨error, listed⟩
    · exact delivers.received_of_ended ended
    · exact RowStream.eq_of_error_mem delivers.within listed
  rw [all] at order
  -- Without an error among the items it is the end that has been polled.
  have closed : failure = none → 0 < ends := by
    rintro rfl
    refine Nat.pos_of_ne_zero fun early => ?_
    rcases done with ended | ⟨error, listed⟩
    · rw [order, early] at ended
      simp at ended
    · rw [all] at listed
      simp [RowStream.itemsOf] at listed
  rw [order]
  exact ⟨collected_itemsOf rows failure closed, observed_itemsOf rows failure closed⟩

/-- An observer has been told a first part of what the items say. -/
theorem observed_within (delivers : Delivers mapRow (RowStream.itemsOf rows failure) task) :
    observed task.polled <+: RowStream.notifications ⟨RowStream.itemsOf rows failure⟩ := by
  -- Before the end only items have been polled, and at the end all has been told.
  by_cases ended : none ∈ task.polled
  · have all := (delivers.finished (.inl ended)).2
    exact all ▸ List.prefix_rfl
  · -- Without the end all polls have given items.
    obtain ⟨ends, order, -⟩ := delivers.order
    have early : ends = 0 := by
      by_contra some
      exact ended (by rw [order]; simp [some])
    rw [order, early, List.replicate_zero, List.append_nil]
    exact observed_map_within delivers.within

end Delivers

/-- A stream over a cursor delivers its items, with the mapping applied to its rows, up to the first
error, whoever takes which turn: what has been received is a first part of them, with nothing
behind an error, and all of them once the end has been polled. A collector and an observer are done
with an error or the end, and then have what these items say. Until the stream is dropped, the other
items remain and its end can be reached; the channel never holds more than its capacity. -/
theorem spawn_delivers (mapRow : σ → β → Except StoreError α × σ)
    (cursor : List (Except StoreError β)) (memory : σ) (buffer : Nat) (turns : List StreamTurn) :
    let whole := untilError (mapCursor mapRow memory cursor)
    let task := (spawn cursor memory buffer : StreamTask σ β α).run mapRow turns
    task.received <+: whole ∧
    (∀ before error after, task.received = before ++ .error error :: after → after = []) ∧
    (task.isHeld = true → task.received ++ task.remaining mapRow = whole) ∧
    (none ∈ task.polled → task.received = whole) ∧
    (none ∈ task.polled ∨ (∃ error, .error error ∈ task.received) →
      collected task.polled = some (RowStream.collect ⟨whole⟩) ∧
      observed task.polled = RowStream.notifications ⟨whole⟩) ∧
    observed task.polled <+: RowStream.notifications ⟨whole⟩ ∧
    (∃ rows failure, whole = RowStream.itemsOf rows failure ∧
      RowStream.collect ⟨whole⟩ = (match failure with
        | none => .ok rows
        | some error => .error error) ∧
      RowStream.notifications ⟨whole⟩ = rows.map .row ++ [match failure with
        | none => .finish
        | some error => .error error]) ∧
    task.queue.length ≤ max buffer 1 ∧
    (task.isHeld = true → ∃ rounds,
      none ∈ (task.run mapRow (List.replicate rounds [.produce, .poll]).flatten).polled) := by
  -- What the invariant says of the run is read off for each of the parts.
  intro whole task
  have delivers : Delivers mapRow whole task := (Delivers.spawn cursor memory buffer).run turns
  have capacity : task.capacity = max buffer 1 := capacity_run mapRow _ turns
  obtain ⟨rows, failure, shape⟩ := RowStream.exists_untilError (mapCursor mapRow memory cursor)
  have told : Delivers mapRow (RowStream.itemsOf rows failure) task := shape ▸ delivers
  have collect := RowStream.collect_itemsOf rows failure
  have notifications := RowStream.notifications_itemsOf rows failure
  rw [show whole = RowStream.itemsOf rows failure from shape]
  exact ⟨told.within, fun before error after => told.nothing_after_error, told.kept,
    told.received_of_ended, told.finished, told.observed_within,
    ⟨rows, failure, rfl, collect, notifications⟩,
    capacity ▸ told.room, fun held => exists_end mapRow task held (by omega)⟩

/-- A mapping that adds up keeps its sum from row to row, and what follows an error is not sent; a
consumer that polls to the end gets all the rest through a channel without room. -/
theorem spawn_delivers_sums :
    let gone : StoreError := .notConnected "gone" none
    let mapRow (sum row : Nat) : Except StoreError Nat × Nat := (.ok (sum + row), sum + row)
    let turns := (List.replicate 4 [StreamTurn.produce, .produce, .poll]).flatten
    let task := (spawn [.ok 1, .ok 2, .error gone, .ok 3] 0 0 : StreamTask Nat Nat Nat).run
      mapRow turns
    task.received = [.ok 1, .ok 3, .error gone] ∧
    collected task.polled = some (.error gone) ∧
    observed task.polled = [.row 1, .row 3, .error gone] := by
  -- The run is computed for its polls, and the general result says what they come to.
  intro gone mapRow turns task
  have polled : task.polled = [some (.ok 1), some (.ok 3), some (.error gone), none] := by
    decide +kernel
  have ended : none ∈ task.polled := by simp [polled]
  obtain ⟨-, -, -, all, finished, -⟩ :=
    spawn_delivers mapRow [.ok 1, .ok 2, .error gone, .ok 3] 0 0 turns
  obtain ⟨collected, observed⟩ := finished (.inl ended)
  exact ⟨all ended, collected, observed⟩

/-- A stream that has failed delivers its error. -/
theorem failed_delivers (mapRow : σ → β → Except StoreError α × σ) (error : StoreError) (memory : σ)
    (turns : List StreamTurn) :
    Delivers mapRow (RowStream.failed error).items ((failed error memory).run mapRow turns) := by
  -- The stream starts with its error in the channel and with no producer.
  have fresh : Delivers mapRow (RowStream.failed error).items (failed error memory) :=
    show Delivers mapRow (remaining mapRow (failed error memory)) _ from .start rfl (Nat.le_refl 1)
  exact fresh.run turns

end StreamTask

namespace Store

/-- The mapping of a stream is applied to each record alone. -/
theorem mapCursor_streamMapping (store : Store) (model : RowModel α) (options : StreamOptions)
    (query : String) (items : List (Except QueryFailure Record)) :
    mapCursor (store.streamMapping model options) ()
        (items.map fun item => item.mapError (·.translate query store.backend))
      = items.map (store.streamRow model options query) := by
  -- By induction on the items; no memory is carried from one to the next.
  induction items with
  | nil => rfl
  | cons item rest ih =>
    cases item with
    | error failure => exact congrArg (_ :: ·) ih
    | ok record => exact congrArg (_ :: ·) ih

/-- The stream of a store delivers the items of that stream, whoever takes which turn. -/
theorem startStream_delivers {σ : Type} (store : Store) (link : Link σ) (model : RowModel α)
    (options : StreamOptions) (state : σ) (turns : List StreamTurn) :
    StreamTask.Delivers (store.streamMapping model options)
      (store.stream link model options state).1.items
      ((store.startStream link options state).1.run (store.streamMapping model options) turns) := by
  -- By whether a statement can be made; without one the stream has failed from the start.
  unfold stream startStream
  cases store.streamStatement options with
  | error error => exact StreamTask.failed_delivers _ error () turns
  | ok statement =>
    refine StreamTask.Delivers.run ?_ turns
    show StreamTask.Delivers _ (untilError (List.map _ _)) _
    rw [← mapCursor_streamMapping]
    exact StreamTask.Delivers.spawn _ () _

end Store

end RowFilter
