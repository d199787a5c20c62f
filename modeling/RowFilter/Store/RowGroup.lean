import RowFilter.Store.Record

/-! Runs of records with the same columns, each of which is inserted by one statement. -/

namespace RowFilter

/-- Records with the same columns; each row has its values in the order of the columns. -/
structure RowGroup where
  columns : List String
  rows : List (List Json)
deriving DecidableEq

namespace RowGroup

/-- Whether a record joins a group with a number of rows: it has the same columns, and the group
still binds no more values than one statement may. -/
def admits (cap : Nat) (columns : List String) (count : Nat) (record : Record) : Bool :=
  -- A record without columns never joins a group, since a row of defaults needs its own statement.
  !record.isEmpty && columns.length = record.length
    && columns.all (fun column => (record.get? column).isSome)
    && (count + 1) * columns.length ≤ cap

/-- The values of a record in the order of some columns. -/
def valuesOf (columns : List String) (record : Record) : List Json :=
  -- Every column of the group is in the record, so that nothing is filled in.
  columns.map fun column => (record.get? column).getD .null

/-- The groups of records, of which the first one is begun; its rows are kept last first. -/
def gather (cap : Nat) (columns : List String) (count : Nat) (rows : List (List Json)) :
    List Record → List RowGroup
  -- A record that is not admitted begins a group of its own.
  | [] => [⟨columns, rows.reverse⟩]
  | record :: rest =>
    if admits cap columns count record then
      gather cap columns (count + 1) (valuesOf columns record :: rows) rest
    else
      ⟨columns, rows.reverse⟩ :: gather cap record.keys 1 [record.map Prod.snd] rest

/-- Divides records into runs with the same columns, each as long as it may be. -/
def ofRecords (cap : Nat) : List Record → List RowGroup
  -- The first record gives the columns of the first group.
  | [] => []
  | record :: rest => gather cap record.keys 1 [record.map Prod.snd] rest

end RowGroup

end RowFilter
