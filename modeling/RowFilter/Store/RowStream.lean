import RowFilter.Store.Error

/-! Streams of rows: items arrive in order, and nothing follows an error. -/

namespace RowFilter

/-- The items up to the first error, which is the last one. -/
def untilError {ε α : Type} : List (Except ε α) → List (Except ε α)
  -- What stands behind an error never reaches a consumer.
  | [] => []
  | .error error :: _ => [.error error]
  | .ok value :: rest => .ok value :: untilError rest

/-- What a consumer of a stream sees. -/
inductive StreamEvent (α : Type) where
  | row (value : α)
  | error (error : StoreError)
  | finish
deriving DecidableEq

/-- A stream of rows, by the items that a consumer receives. -/
structure RowStream (α : Type) where
  items : List (Except StoreError α)

namespace RowStream

/-- The stream whose only item is an error. -/
def failed {α : Type} (error : StoreError) : RowStream α := ⟨[.error error]⟩

/-- The stream over the items of a cursor, each of which is read as a row. -/
def ofCursor {α β : Type} (read : β → Except StoreError α) (items : List β) : RowStream α :=
  -- Reading may fail as well, and ends the stream like a fault of the cursor.
  ⟨untilError (items.map read)⟩

/-- All rows, or the first error. -/
def collect {α : Type} (stream : RowStream α) : Except StoreError (List α) :=
  -- There is at most one error, which hides all rows.
  stream.items.mapM id

/-- What a consumer sees of an item. -/
def eventOf {α : Type} : Except StoreError α → StreamEvent α
  -- A consumer sees an error as it is.
  | .ok value => .row value
  | .error error => .error error

/-- What a consumer sees that takes items one by one until the stream is exhausted. -/
def pulls {α : Type} (stream : RowStream α) : List (StreamEvent α) :=
  -- The end is seen once, also behind an error.
  stream.items.map eventOf ++ [.finish]

/-- What an observer sees from some items on: rows, and then an error or the end. -/
def notify {α : Type} : List (Except StoreError α) → List (StreamEvent α)
  -- Unlike a consumer, an observer is told no end behind an error.
  | [] => [.finish]
  | .error error :: _ => [.error error]
  | .ok value :: rest => .row value :: notify rest

/-- What an observer of a stream sees. -/
def notifications {α : Type} (stream : RowStream α) : List (StreamEvent α) :=
  -- Every item is told, in order.
  notify stream.items

end RowStream

end RowFilter
