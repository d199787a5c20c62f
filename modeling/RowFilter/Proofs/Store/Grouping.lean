import Mathlib.Data.List.Perm.Subperm
import RowFilter.Proofs.Json.Keys
import RowFilter.Proofs.Statement.Clause
import RowFilter.Store.Basic

/-! Inserted records are divided into groups that lose, repeat and reorder none of them. -/

namespace RowFilter

open Sql Sql.Fragment

namespace Record

/-- A record is what it has under its keys. -/
theorem map_get? {record : Record} (distinct : record.keys.Nodup) :
    record.keys.map (fun key => (key, (record.get? key).getD .null)) = record := by
  -- Each member is the one that is found under its key.
  have each : ∀ member ∈ record, (member.1, (record.get? member.1).getD .null) = member := by
    intro member listed
    rw [Members.get?_of_mem distinct listed]
    rfl
  rw [Members.keys, List.map_map]
  exact (List.map_congr_left each).trans (List.map_id record)

/-- Looking up keys of a record in another order gives its members in that order. -/
theorem zip_valuesOf {record : Record} {columns : List String} (distinct : record.keys.Nodup)
    (same : columns.Perm record.keys) :
    (columns.zip (RowGroup.valuesOf columns record)).Perm record := by
  -- A value is looked up under each column, and stands behind it in the pair.
  have paired : columns.zip (RowGroup.valuesOf columns record)
      = columns.map fun key => (key, (record.get? key).getD .null) := by
    have own : (columns.map fun key => key).zip (RowGroup.valuesOf columns record) = _ :=
      List.zip_map'
    rwa [List.map_id'] at own
  rw [paired]
  have moved := same.map fun key => (key, (record.get? key).getD .null)
  rwa [map_get? distinct] at moved

/-- A record is its keys with its values. -/
theorem zip_keys (record : Record) : record.keys.zip (record.map Prod.snd) = record :=
  -- Pairs that are taken apart and put together again are the same pairs.
  List.zip_map'.trans (List.map_id record)

end Record

namespace RowGroup

/-- The rows of a group as records, each value under its column. -/
def records (group : RowGroup) : List Record := group.rows.map (group.columns.zip ·)

/-- Whether a group can be inserted as it is: its columns are distinct and each of its rows has one
value for each of them, several rows bind no more values than the cap, and a record without values
is alone. -/
structure Fits (cap : Nat) (group : RowGroup) : Prop where
  distinct : group.columns.Nodup
  filled : group.rows ≠ []
  aligned : ∀ row ∈ group.rows, row.length = group.columns.length
  bounded : 1 < group.rows.length → group.rows.length * group.columns.length ≤ cap
  alone : [] ∈ group.records → group = ⟨[], [[]]⟩

/-- Whether the first record of a group could not have joined the group before it: it is empty, it
has other keys, or there would have been more values than the cap. -/
def Apart (cap : Nat) (group next : RowGroup) : Prop :=
  -- An empty record joins nothing, not even another empty one.
  ∃ first, next.records.head? = some first ∧
    (first = [] ∨ (¬ ∀ column, column ∈ first.keys ↔ column ∈ group.columns) ∨
      cap < (group.rows.length + 1) * group.columns.length)

variable {cap : Nat} {columns : List String} {record : Record}

/-- A record that joins a group has the columns of the group as its keys, and leaves it within the
cap. -/
theorem perm_of_admits {count : Nat} (distinct : columns.Nodup)
    (admitted : admits cap columns count record = true) :
    columns.Perm record.keys ∧ columns ≠ [] ∧ (count + 1) * columns.length ≤ cap := by
  -- The record is not empty, as long as there are columns, and has each of them.
  simp only [admits, Bool.and_eq_true, Bool.not_eq_true', List.isEmpty_eq_false_iff,
    decide_eq_true_eq, List.all_eq_true] at admitted
  obtain ⟨⟨⟨filled, long⟩, known⟩, within⟩ := admitted
  have kept : columns ⊆ record.keys := by
    intro column listed
    obtain ⟨value, found⟩ := Option.isSome_iff_exists.mp (known column listed)
    exact List.mem_map_of_mem (Members.mem_of_get? found)
  have size : record.keys.length = record.length := List.length_map _
  -- As many distinct columns as there are keys are all of the keys.
  have same : columns.Perm record.keys :=
    (List.subperm_of_subset distinct kept).perm_of_length_le (by omega)
  refine ⟨same, ?_, within⟩
  rintro rfl
  exact filled (List.length_eq_zero_iff.mp long.symm)

/-- A record that does not join a group is empty, has other keys than the columns of the group, or
would take it beyond the cap. -/
theorem apart_of_not_admits {count : Nat} (keyed : record.keys.Nodup) (distinct : columns.Nodup)
    (refused : admits cap columns count record = false) :
    record = [] ∨ (¬ ∀ column, column ∈ record.keys ↔ column ∈ columns) ∨
      cap < (count + 1) * columns.length := by
  -- If none of the three applied, the record would pass every test.
  by_contra joins
  simp only [not_or, not_not, Nat.not_lt] at joins
  obtain ⟨filled, same, within⟩ := joins
  -- The same keys without repetition are the columns in some order, and as many.
  have whole : record.keys.Perm columns := (List.perm_ext_iff_of_nodup keyed distinct).mpr same
  have long : columns.length = record.length := by
    rw [← whole.length_eq, Members.keys, List.length_map]
  have known : ∀ column ∈ columns, (record.get? column).isSome = true := by
    intro column listed
    obtain ⟨member, present, rfl⟩ := List.mem_map.mp ((same column).mpr listed)
    rw [Members.get?_of_mem keyed present]
    rfl
  -- With the same keys there is nothing left that the record could be refused for.
  have admitted : admits cap columns count record = true := by
    simp only [admits, Bool.and_eq_true, Bool.not_eq_true', List.isEmpty_eq_false_iff,
      decide_eq_true_eq, List.all_eq_true]
    exact ⟨⟨⟨filled, long⟩, known⟩, within⟩
  rw [admitted] at refused
  cases refused

/-- A group of one record can be inserted. -/
theorem fits_single (cap : Nat) (keyed : record.keys.Nodup) :
    Fits cap ⟨record.keys, [record.map Prod.snd]⟩ where
  -- The columns are the keys of the record, which all differ.
  distinct := keyed
  filled := by simp
  aligned := by simp [Members.keys]
  bounded := by simp
  alone := by
    rw [records, List.map_singleton, List.mem_singleton, Record.zip_keys]
    rintro rfl
    rfl

/-- A group can still be inserted with one more row, if it has columns and stays within the cap. -/
theorem Fits.snoc {rows : List (List Json)} {row : List Json} (fits : Fits cap ⟨columns, rows⟩)
    (some : columns ≠ []) (aligned : row.length = columns.length)
    (within : (rows.length + 1) * columns.length ≤ cap) :
    Fits cap ⟨columns, rows ++ [row]⟩ where
  -- Every part but the last one goes through with one more row.
  distinct := fits.distinct
  filled := by simp
  aligned := by
    intro other listed
    rcases List.mem_append.mp listed with before | last
    · exact fits.aligned other before
    · rwa [List.mem_singleton.mp last]
  bounded := fun _ => by simpa using within
  alone := by
    -- A row is as long as the columns, of which there are some.
    intro listed
    obtain ⟨other, present, empty⟩ := List.mem_map.mp listed
    have long : other.length = columns.length := by
      rcases List.mem_append.mp present with before | last
      · exact fits.aligned other before
      · rwa [List.mem_singleton.mp last]
    have short := congrArg List.length empty
    rw [List.length_zip, long, Nat.min_self] at short
    exact absurd (List.length_eq_zero_iff.mp short) some

/-- The groups that are gathered start with the group that is begun, which only grows. -/
theorem gather_eq (cap : Nat) (columns : List String) (count : Nat) (rows : List (List Json))
    (rest : List Record) :
    ∃ more others, gather cap columns count rows rest = ⟨columns, rows.reverse ++ more⟩ :: others := by
  -- By induction on the records, with the rows that have been gathered so far.
  induction rest generalizing count rows with
  | nil => exact ⟨[], [], by simp [gather]⟩
  | cons record rest ih =>
    rw [gather]
    split
    · -- The rows are gathered with the last one in front.
      obtain ⟨more, others, grown⟩ := ih (count + 1) (valuesOf columns record :: rows)
      exact ⟨valuesOf columns record :: more, others, by simpa using grown⟩
    · exact ⟨[], _, by rw [List.append_nil]⟩

/-- What gathering keeps: from a group that is begun with some records it goes on to groups of these
records and the others, in order, each of which can be inserted and is as long as it may be. -/
theorem gather_spec (cap : Nat) (rows : List (List Json)) {earlier : List Record}
    (fits : Fits cap ⟨columns, rows.reverse⟩)
    (begun : List.Forall₂ List.Perm (records ⟨columns, rows.reverse⟩) earlier)
    {rest : List Record} (keyed : ∀ record ∈ rest, record.keys.Nodup) :
    let groups := gather cap columns rows.length rows rest
    List.Forall₂ List.Perm (groups.flatMap records) (earlier ++ rest) ∧
    (∀ group ∈ groups, Fits cap group) ∧ groups.IsChain (Apart cap) := by
  -- Each record joins the group that is begun, or closes it and begins another one.
  induction rest generalizing columns rows earlier with
  | nil => simpa [gather] using ⟨begun, fits⟩
  | cons record rest ih =>
    obtain ⟨own, others⟩ := List.forall_mem_cons.mp keyed
    rw [gather]
    split
    · -- The record joins, and its values are aligned with the columns of the group.
      rename_i admitted
      obtain ⟨same, some, within⟩ := perm_of_admits fits.distinct admitted
      have aligned : (valuesOf columns record).length = columns.length := List.length_map _
      have grown : Fits cap ⟨columns, (valuesOf columns record :: rows).reverse⟩ := by
        rw [List.reverse_cons]
        exact fits.snoc some aligned (by simpa using within)
      have joined : List.Forall₂ List.Perm
          (records ⟨columns, (valuesOf columns record :: rows).reverse⟩) (earlier ++ [record]) := by
        rw [List.reverse_cons, records, List.map_append]
        exact List.rel_append begun (.cons (Record.zip_valuesOf own same) .nil)
      simpa using ih _ grown joined others
    · -- The group is closed, and what is known of it does not change any more.
      rename_i refused
      have single : List.Forall₂ List.Perm
          (records ⟨record.keys, [record.map Prod.snd].reverse⟩) [record] :=
        .cons (.of_eq (Record.zip_keys record)) .nil
      obtain ⟨kept, inserted, chain⟩ := ih _ (fits_single cap own) single others
      refine ⟨?_, ?_, ?_⟩
      · rw [List.flatMap_cons]
        exact List.rel_append begun kept
      · exact List.forall_mem_cons.mpr ⟨fits, inserted⟩
      · -- The next group begins with the record that was refused.
        obtain ⟨more, later, next⟩ := gather_eq cap record.keys 1 [record.map Prod.snd] rest
        have apart : Apart cap ⟨columns, rows.reverse⟩
            ⟨record.keys, [record.map Prod.snd].reverse ++ more⟩ := by
          refine ⟨record, by simp [records, Record.zip_keys], ?_⟩
          rw [List.length_reverse]
          exact apart_of_not_admits own fits.distinct (by simpa using refused)
        rw [List.length_singleton, next] at chain
        rw [next]
        exact List.isChain_cons_cons.mpr ⟨apart, chain⟩

/-- The groups of records have the records, in order, can all be inserted, and are as long as they
may be. -/
theorem ofRecords_spec (cap : Nat) {records : List Record}
    (keyed : ∀ record ∈ records, record.keys.Nodup) :
    List.Forall₂ List.Perm ((ofRecords cap records).flatMap RowGroup.records) records ∧
    (∀ group ∈ ofRecords cap records, Fits cap group) ∧
    (ofRecords cap records).IsChain (Apart cap) := by
  -- Without records there is no group, and with some the first of them begins one.
  cases records with
  | nil => exact ⟨.nil, by simp [ofRecords], .nil⟩
  | cons record rest =>
    obtain ⟨own, others⟩ := List.forall_mem_cons.mp keyed
    -- The first record begins the first group.
    exact gather_spec cap [record.map Prod.snd] (fits_single cap own)
      (.cons (.of_eq (Record.zip_keys record)) .nil) others

end RowGroup

namespace Store

variable (store : Store) (projection : Projection) (group : RowGroup)

/-- The insertion of a group binds at most one value for each column of each row. -/
theorem size_bound_insert :
    ((store.insertStatement projection group).render store.backend).bound.size
      ≤ group.rows.length * group.columns.length := by
  -- Nothing but the values that are stored is bound, and null is not.
  have sites : (store.insertStatement projection group).sites
      = .name store.table.name :: group.columns.map .name
        ++ group.rows.flatMap (fun row => (group.columns.zip row).map fun stored =>
          Statement.storedSite store.table stored.1 stored.2)
        ++ Statement.projectionSites projection := rfl
  have names : ∀ names : List String, (names.map Site.name).filterMap Site.value? = [] := by
    intro names
    simp [List.filterMap_map, Site.value?]
  have given : (Statement.projectionSites projection).filterMap Site.value? = [] := by
    cases projection with
    | all => rfl
    | columns chosen => exact names chosen
  have each : ∀ rows : List (List Json),
      ((rows.flatMap (fun row => (group.columns.zip row).map fun stored =>
        Statement.storedSite store.table stored.1 stored.2)).filterMap Site.value?).length
        ≤ rows.length * group.columns.length := by
    intro rows
    induction rows with
    | nil => simp
    | cons row rest ih =>
      have own : (((group.columns.zip row).map fun stored =>
          Statement.storedSite store.table stored.1 stored.2).filterMap Site.value?).length
            ≤ group.columns.length := by
        refine Nat.le_trans (List.length_filterMap_le _ _) ?_
        rw [List.length_map, List.length_zip]
        exact Nat.min_le_left _ _
      rw [List.flatMap_cons, List.filterMap_append, List.length_append, List.length_cons,
        Nat.succ_mul]
      omega
  rw [Statement.render_eq, List.size_toArray, values_eq, Statement.sites_fragment, sites,
    List.length_map, List.filterMap_append, List.filterMap_append, given, List.append_nil,
    List.filterMap_cons_none rfl, names, List.nil_append]
  exact each group.rows

/-- The insertion of a group without columns is a row of defaults. -/
theorem text_insert_defaults (fields : group.columns = []) :
    ((store.insertStatement projection group).render store.backend).text
      = "INSERT INTO " ++ Statement.quotedText store.backend store.table.name
        ++ " DEFAULT VALUES RETURNING " ++ Fragment.text store.backend projection.fragment := by
  -- The statement has no columns, and so it is written without a list of rows.
  have parts : (store.insertStatement projection group).fragment store.backend
      = ([.word .insert, .blank, .word .into, .blank] : Fragment)
        ++ ([.name store.table.name] : Fragment)
        ++ ([.blank, .word .byDefault, .blank, .word .values] : Fragment)
        ++ ([.blank, .word .returning, .blank] : Fragment) ++ projection.fragment := by
    rw [insertStatement, fields]
    simp [Statement.new, Statement.fragment, Statement.head, Statement.whereFragment,
      Statement.tail]
  rw [Statement.render_eq, parts]
  simp only [textFrom_append, textFrom_word, textFrom_blank, textFrom_nil,
    Statement.textFrom_name, textFrom_fixed (Statement.values_projection projection),
    String.append_assoc]
  rfl

/-- Inserted records are divided into groups that give the records back in order, each value under
its key. Each group can be inserted: its rows have a value for each of its distinct columns, several
rows bind no more values than one statement may, and a record without values is a row of defaults by
itself. No group could have taken in the first record of the next one. -/
theorem insert_groups (cap : Nat) {records : List Record}
    (keyed : ∀ record ∈ records, record.keys.Nodup) :
    List.Forall₂ List.Perm ((RowGroup.ofRecords cap records).flatMap RowGroup.records) records ∧
    (∀ group ∈ RowGroup.ofRecords cap records, group.Fits cap) ∧
    (RowGroup.ofRecords cap records).IsChain (RowGroup.Apart cap) ∧
    (∀ group ∈ RowGroup.ofRecords cap records,
      (1 < group.rows.length →
        ((store.insertStatement projection group).render store.backend).bound.size ≤ cap) ∧
      ([] ∈ group.records → ((store.insertStatement projection group).render store.backend).text
        = "INSERT INTO " ++ Statement.quotedText store.backend store.table.name
          ++ " DEFAULT VALUES RETURNING " ++ Fragment.text store.backend projection.fragment)) ∧
    store.insertStatements (.array (records.map .object)) projection
      = .ok ((RowGroup.ofRecords store.backend.maxParameters records).map
          (store.insertStatement projection)) := by
  -- The groups are known, and what is left is how each of them is written and sent.
  obtain ⟨same, fits, apart⟩ := RowGroup.ofRecords_spec cap keyed
  refine ⟨same, fits, apart, fun group listed => ⟨fun several => ?_, fun empty => ?_⟩, ?_⟩
  · exact Nat.le_trans (store.size_bound_insert projection group)
      ((fits group listed).bounded several)
  · -- A group with an empty record is that of one row without columns.
    rw [(fits group listed).alone empty]
    exact store.text_insert_defaults projection _ rfl
  · have read : insertedRecords (.array (records.map .object)) = .ok records := by
      have each : List.Forall₂ (fun record item => insertedRecord item = .ok record) records
          (records.map Json.object) :=
        List.forall₂_map_right_iff.mpr (List.forall₂_same.mpr fun record _ => rfl)
      exact Result.mapM_of_forall₂ each
    rw [insertStatements, read]
    rfl

/-- Two records with the same keys in another order share a statement, a third one would bind six
values where five are allowed, and each of two empty records is a row of defaults. -/
theorem insert_groups_books :
    let store : Store := ⟨.books, .sqlite, .default⟩
    let one : Json := .integer ⟨1, by decide⟩
    let records : List Record := [[("id", one), ("title", .string "a")],
      [("title", .string "b"), ("id", one)], [("id", one), ("title", .string "c")], [], []]
    let groups : List RowGroup :=
      [⟨["id", "title"], [[one, .string "a"], [one, .string "b"]]⟩,
        ⟨["id", "title"], [[one, .string "c"]]⟩, ⟨[], [[]]⟩, ⟨[], [[]]⟩]
    RowGroup.ofRecords 5 records = groups ∧
    List.Forall₂ List.Perm (groups.flatMap RowGroup.records) records ∧
    (∀ group ∈ groups, group.Fits 5) ∧ groups.IsChain (RowGroup.Apart 5) ∧
    (∀ group ∈ groups, 1 < group.rows.length →
      ((store.insertStatement .all group).render .sqlite).bound.size ≤ 5) := by
  -- The groups of the five records are computed.
  intro store one records groups
  have made : RowGroup.ofRecords 5 records = groups := by decide
  obtain ⟨same, fits, apart, sent, -⟩ := @insert_groups store .all 5 records (by decide)
  rw [made] at same fits apart sent
  exact ⟨made, same, fits, apart, fun group listed => (sent group listed).1⟩

end Store

end RowFilter
