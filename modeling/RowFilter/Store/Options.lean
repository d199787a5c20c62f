import RowFilter.Request
import RowFilter.Store.Error

/-! What may be asked of a store. -/

namespace RowFilter

/-- What to do when a statement gives no rows back. -/
inductive EmptyPolicy where
  | ignore
  | raise
  /-- Raises an error with a message of the caller. -/
  | raiseWith (message : String)
deriving DecidableEq

/-- Raises an error for a statement without rows, if the policy asks for it. -/
def EmptyPolicy.check (policy : EmptyPolicy) (rows : Nat) (query : String) :
    Except StoreError Unit :=
  -- The policy only matters where there are no rows.
  if 0 < rows then .ok ()
  else
    match policy with
    | .ignore => .ok ()
    | .raise => .error (.missingResult none query)
    | .raiseWith message => .error (.missingResult (some message) query)

/-- A query for a page of rows. -/
structure FindOptions where
  projection : Projection
  filter : Option Filter
  /-- Rows are ordered by their identity unless keys are given. -/
  order : Option (List SortKey)
  limit : Option UInt32
  offset : Option UInt32
  onEmpty : EmptyPolicy

/-- The query that a request asks for. -/
def FindOptions.ofRequest (request : FindRequest) : FindOptions :=
  -- A request has no word for the policy, so that no rows are no error.
  ⟨request.projection.getD .all, request.filter, request.order, request.limit, request.offset,
    .ignore⟩

/-- A query for the first row that a filter selects. -/
structure FindOneOptions where
  projection : Projection
  filter : Filter
  order : Option (List SortKey)
  onEmpty : EmptyPolicy

/-- A change of the rows that a filter selects. -/
structure ChangeOptions where
  projection : Projection
  filter : Filter
  onEmpty : EmptyPolicy

/-- A query for all rows one by one. -/
structure StreamOptions where
  projection : Projection
  filter : Option Filter
  order : Option (List SortKey)
  /-- A change of each record before it is read as a row. -/
  transform : Option (Members → Members)

end RowFilter
