import RowFilter.Proofs.Filter.Spelling
import RowFilter.Proofs.Json.RoundTrip
import RowFilter.Proofs.Json.Strings
import RowFilter.Proofs.Store.Insertion
import RowFilter.Proofs.Store.Scope
import RowFilter.Store.Session

/-! Documents that are stored as text are given back as documents, and no other column changes. -/

namespace RowFilter

open Sql

namespace Statement

variable {statement : Statement} {column : String} {value : Json}

/-- Whether a statement stores a value in a column, in a row of an insertion or by an assignment. -/
def Stores (statement : Statement) (column : String) (value : Json) : Prop :=
  -- Queries, counts and removals store nothing.
  match statement.action with
  | .insert columns rows => ∃ row ∈ rows, (column, value) ∈ columns.zip row
  | .update assignments => (column, value) ∈ assignments
  | _ => False

/-- A value that is stored has its site in the statement. -/
theorem Stores.mem_sites (stores : statement.Stores column value) :
    storedSite statement.table column value ∈ statement.sites := by
  -- By the action, which says where the values stand in the text.
  obtain ⟨table, action, projection, filter, order, page⟩ := statement
  cases action with
  | insert columns rows =>
    -- The values of the rows stand between the names of the columns and what is returned.
    obtain ⟨row, listed, placed⟩ := stores
    refine List.mem_append_left _ (List.mem_append_right _ ?_)
    exact List.mem_flatMap.mpr ⟨row, listed, List.mem_map.mpr ⟨(column, value), placed, rfl⟩⟩
  | update assignments =>
    -- The assignments stand between the name of the table and the clause.
    have assigned : (column, value) ∈ assignments := stores
    refine List.mem_append_left _ (List.mem_append_left _ (List.mem_cons_of_mem _ ?_))
    exact List.mem_flatMap.mpr ⟨(column, value), assigned, by simp⟩
  | _ => cases stores

/-- Whether a statement binds a text for a value that it stores in a column: the place of the value
takes a parameter that is this text in a cell. -/
structure BindsText (statement : Statement) (column : String) (value : Json) (text : String) :
    Prop where
  stores : statement.Stores column value
  bound : ∃ parameter temporal,
    storedPiece statement.table column value = .value parameter temporal ∧
    parameter ∈ (statement.render .sqlite).bound ∧
    Engine.Cell.ofParameter parameter = .text text

/-- A value that is stored is bound as the text that its parameter is in a cell. -/
theorem Stores.bindsText {parameter : Parameter} {text : String}
    (stores : statement.Stores column value) (taken : Parameter.ofJson? value = some parameter)
    (written : Engine.Cell.ofParameter parameter = .text text) :
    statement.BindsText column value text := by
  -- The value has a site in the statement, and what is bound stands at the sites.
  refine ⟨stores, parameter, isTemporal statement.table column value, ?_, ?_, written⟩
  · simp [storedPiece, taken]
  · -- The value is at its site, and all values at sites are bound.
    have site := stores.mem_sites
    rw [storedSite, taken] at site
    have known := List.mem_filterMap.mpr ⟨_, site, show Site.value? _ = some _ from rfl⟩
    rw [render_eq, List.mem_toArray, Fragment.values_eq, sites_fragment]
    exact List.mem_map.mpr ⟨_, known, rfl⟩

end Statement

namespace Store

variable {store : Store} {column : String} {value : Json}

/-- Whatever is in a record that is inserted is stored by one of the statements. -/
theorem insertStatements_stores {data : Json} {records : List Record} {projection : Projection}
    {statements : List Statement} (given : data.IsRecords records)
    (wellKeyed : data.isWellKeyed = true)
    (made : store.insertStatements data projection = .ok statements) {record : Record}
    (listed : record ∈ records) (member : (column, value) ∈ record) :
    ∃ statement ∈ statements, statement.table = store.table ∧ statement.Stores column value := by
  -- The records are those of the document, and each of them ends up in some group.
  rw [insertStatements, insertedRecords_eq given] at made
  cases made
  -- Each record is an object of the document, which has each key once.
  have keyed : ∀ record ∈ records, record.keys.Nodup := by
    cases given with
    | one => exact List.forall_mem_singleton.mpr (Json.isWellKeyed_object.mp wellKeyed).1
    | many =>
      intro record listed
      have own := Json.isWellKeyed_array.mp wellKeyed _ (List.mem_map_of_mem listed)
      exact (Json.isWellKeyed_object.mp own).1
  -- The groups have the same records, each with its values in some order.
  obtain ⟨same, -, -⟩ := RowGroup.ofRecords_spec store.backend.maxParameters keyed
  obtain ⟨row, placed, moved⟩ := Result.exists_of_forall₂ same.flip listed
  obtain ⟨group, grouped, ordered⟩ := List.mem_flatMap.mp placed
  obtain ⟨values, valued, rfl⟩ := List.mem_map.mp ordered
  exact ⟨store.insertStatement projection group, List.mem_map_of_mem grouped, rfl, values, valued,
    (moved.mem_iff).mpr member⟩

/-- Whatever an update assigns is stored by its statement. -/
theorem updateStatement_stores {members : Members} {options : ChangeOptions} {statement : Statement}
    (made : store.updateStatement (.object members) options = .ok statement)
    (member : (column, value) ∈ members) :
    statement.table = store.table ∧ statement.Stores column value := by
  -- Without assignments the update is refused.
  cases members with
  | nil => cases member
  | cons first rest =>
    -- There is something to assign, so that only the filter may refuse the update.
    have narrow : narrowed .update { Statement.new store.table (.update (first :: rest)) with
        projection := options.projection } options.filter = .ok statement := made
    cases compiled : options.filter.compile store.table with
    | error error =>
      rw [narrowed_error compiled] at narrow
      cases narrow
    | ok predicate =>
      rw [Statement.new, narrowed_ok compiled] at narrow
      -- A filter that constrains nothing is refused, and any other leaves the assignments alone.
      split at narrow
      · cases narrow
      · cases narrow
        exact ⟨rfl, member⟩

end Store

/-- Whether a document is an array or an object that is stored without loss: each of its objects has
each key once, no number is a float, and it has no more levels than are read. -/
structure Json.IsStorable (document : Json) : Prop where
  compound : document.isScalar = false
  wellKeyed : document.isWellKeyed = true
  floatless : document.IsFloatless
  shallow : document.depth < Draft.maxDepth

/-- A number that is a word is the document of that word. -/
theorem Json.integer_eq_ofInt64 {number : WideInt} {word : Int64}
    (small : number.toInt64? = some word) : Json.integer number = .ofInt64 word := by
  -- The word was made of the value, which it holds without loss.
  obtain ⟨value, least, most⟩ := number
  unfold WideInt.toInt64? at small
  split at small
  · rename_i below
    cases small
    have own : (Int64.ofInt value).toInt = value :=
      Int64.toInt_ofInt_of_le least below
    simp [Json.ofInt64, WideInt.ofInt64, own]
  · cases small

namespace Record

/-- What restoring does to one column of a record: a whole number in a column of truth values
becomes whether it is not zero, and text in a column of documents becomes the document that it
spells. Anything else stays as it is. -/
inductive Restores (table : Table) : String × Json → String × Json → Prop
  | truth {column : String} {word : Int64} (declared : table.kindOf? column = some .boolean) :
    Restores table (column, .ofInt64 word) (column, .bool (word != 0))
  | document {column text : String} {document : Json}
    (declared : table.kindOf? column = some .json) (read : Json.read text = .ok document) :
    Restores table (column, .string text) (column, document)
  | same {column : String} {value : Json}
    (noTruth : table.kindOf? column = some .boolean → ∀ word, value ≠ .ofInt64 word)
    (noDocument : table.kindOf? column = some .json →
      ∀ text document, value = .string text → Json.read text ≠ .ok document) :
    Restores table (column, value) (column, value)

variable (table : Table)

/-- A value is restored by the kind of its column. -/
theorem restores_value (column : String) (value : Json) :
    Restores table (column, value) (column, restoreValue (table.kindOf? column) value) := by
  -- Only two kinds of columns have values of another form than the one they are given.
  unfold restoreValue
  split
  · -- A whole number that is no word is none of a column.
    rename_i kind number declared
    split
    · rename_i word small
      rw [Json.integer_eq_ofInt64 small]
      exact .truth declared
    · rename_i wide
      refine .same (fun _ word same => ?_) (fun _ text document same => by cases same)
      rw [Json.ofInt64, Json.integer.injEq] at same
      rw [same, WideInt.toInt64?_ofInt64] at wide
      cases wide
  · -- A text that spells no document stays a text.
    rename_i text declared
    split
    · rename_i document read
      exact .document declared read
    · rename_i failed
      refine .same (fun _ word same => by cases same) (fun _ other document same read => ?_)
      rw [Json.string.injEq] at same
      rw [same, read] at failed
      cases failed
  · -- No other value is changed in a column of either kind, and none in any other column.
    rename_i noTruth noDocument
    refine .same (fun declared word same => noTruth _ declared same)
      (fun declared text document same => ?_)
    exact absurd same (noDocument text declared)

/-- Restoring goes through the columns in order. -/
theorem restore_restores (record : Record) :
    List.Forall₂ (Restores table) record (record.restore .sqlite table) := by
  -- The columns are restored where they stand.
  rw [restore, List.forall₂_map_right_iff]
  exact List.forall₂_same.mpr fun member _ => restores_value table member.1 member.2

/-- What is found in a restored record is what was found before, restored. -/
theorem get?_restore (record : Record) (column : String) :
    (record.restore .sqlite table).get? column
      = (record.get? column).map (restoreValue (table.kindOf? column)) := by
  -- A record may have a key twice, and then the first member is the one that counts.
  induction record with
  | nil => rfl
  | cons member rest ih =>
    obtain ⟨key, value⟩ := member
    simp only [restore, Members.get?, List.map_cons, List.find?_cons] at ih ⊢
    -- The first member under the key is the one that is found, before and after.
    by_cases own : key = column
    · subst own
      simp
    · have other : (key == column) = false := by simpa using own
      simp only [other]
      exact ih

end Record

namespace Store

variable {store : Store} {column : String} {value : Json} {parameter : Parameter} {text : String}

/-- A value of which a text is bound is bound as that text wherever a record with it is inserted. -/
theorem insert_bindsText (taken : Parameter.ofJson? value = some parameter)
    (written : Engine.Cell.ofParameter parameter = .text text) {data : Json}
    {records : List Record} {projection : Projection} {statements : List Statement}
    (given : data.IsRecords records) (wellKeyed : data.isWellKeyed = true)
    (made : store.insertStatements data projection = .ok statements) {record : Record}
    (listed : record ∈ records) (found : record.get? column = some value) :
    ∃ statement ∈ statements, statement.BindsText column value text := by
  -- The statement that stores the value binds it.
  obtain ⟨statement, sent, -, stores⟩ :=
    insertStatements_stores given wellKeyed made listed (Members.mem_of_get? found)
  exact ⟨statement, sent, stores.bindsText taken written⟩

/-- A value of which a text is bound is bound as that text by an update that assigns it. -/
theorem update_bindsText (taken : Parameter.ofJson? value = some parameter)
    (written : Engine.Cell.ofParameter parameter = .text text) {members : Members}
    {options : ChangeOptions} {statement : Statement}
    (made : store.updateStatement (.object members) options = .ok statement)
    (found : members.get? column = some value) : statement.BindsText column value text :=
  -- The one statement stores the value, and so it binds it.
  (updateStatement_stores made (Members.mem_of_get? found)).2.bindsText taken written

/-- A record is read with its columns restored. -/
theorem readRow_sqlite (sqlite : store.backend = .sqlite) (query : String) (record : Record) :
    store.readRow RowModel.record query record = .ok (record.restore .sqlite store.table) := by
  -- Nothing is read into a record that is not there already.
  rw [readRow, sqlite]
  rfl

/-- An array or an object without floats and within the levels that are read is bound as its text
when it is inserted into a column of documents or assigned to one, and a row that gives this text
back is read with the same document. Apart from that, reading a row changes nothing but whole
numbers in columns of truth values and texts of documents in columns of documents, and it keeps the
columns in order; rows of the other backend do not change at all. -/
theorem documents_survive (store : Store) :
    (store.backend = .sqlite → ∀ column, store.table.kindOf? column = some .json →
      ∀ document : Json, document.IsStorable →
        (∀ data records projection statements, data.IsRecords records → data.isWellKeyed = true →
          store.insertStatements data projection = .ok statements →
          ∀ record ∈ records, record.get? column = some document →
            ∃ statement ∈ statements, statement.BindsText column document document.write) ∧
        (∀ (members : Members) options statement,
          store.updateStatement (.object members) options = .ok statement →
          members.get? column = some document →
            statement.BindsText column document document.write) ∧
        ∀ record query, record.get? column = some (.string document.write) →
          ∃ row, store.readRow RowModel.record query record = .ok row ∧
            row.get? column = some document) ∧
    ∀ record : Record,
      List.Forall₂ (Record.Restores store.table) record (record.restore .sqlite store.table) ∧
      (record.restore .sqlite store.table).keys = record.keys ∧
      record.restore .postgres store.table = record := by
  -- What is written is the text of the document, and what is read of it is the document.
  refine ⟨?_, ?_⟩
  · rintro sqlite column declared document ⟨compound, wellKeyed, floatless, shallow⟩
    -- Arrays and objects are bound as documents, which are texts in a cell.
    have taken : Parameter.ofJson? document = some (.json document) := by
      cases document with
      | array items => rfl
      | object members => rfl
      | _ => cases compound
    have back := Json.read_write wellKeyed floatless shallow
    refine ⟨?_, ?_, ?_⟩
    · intro data records projection statements given keyed made record listed found
      exact insert_bindsText taken rfl given keyed made listed found
    · intro members options statement made found
      exact update_bindsText taken rfl made found
    · -- The text that was bound is read as the document that was written.
      intro record query found
      refine ⟨_, readRow_sqlite sqlite query record, ?_⟩
      rw [Record.get?_restore, found, declared, Option.map_some, Record.restoreValue, back]
  · intro record
    exact ⟨record.restore_restores store.table, by simp [Record.restore, Members.keys], rfl⟩

/-- An object with a text of quotes and controls, the least whole number and an array is inserted
into a column of documents, and what is bound for it is read back as the object. -/
theorem documents_survive_books :
    let table : Table := .booksWith "meta" .json (by decide)
    let store : Store := ⟨table, .sqlite, .default⟩
    let one : Json := .integer ⟨1, by decide⟩
    let document : Json := .object [("z\x01", .string "\"\\\n"),
      ("a", .integer ⟨-0x8000000000000000, by decide⟩), ("m", .array [.null, .object []])]
    let text := "\x7b\"z\\u0001\":\"\\\"\\\\\\n\",\"a\":-9223372036854775808,"
      ++ "\"m\":[null,\x7b\x7d]\x7d"
    document.write = text ∧ document.IsStorable ∧ document.depth = 3 ∧
    (store.insertStatement .all ⟨["id", "meta"], [[one, document]]⟩).BindsText "meta" document
      text ∧
    ∃ row, store.readRow RowModel.record "" [("id", one), ("meta", .string text)] = .ok row ∧
      row.get? "meta" = some document := by
  -- The statement and its row are fixed, and the text of the document is computed.
  intro table store one document text
  have written : document.write = text := by decide
  have floatless : document.IsFloatless := by
    refine .object fun member listed => ?_
    simp only [List.mem_cons, List.not_mem_nil, or_false] at listed
    rcases listed with rfl | rfl | rfl
    · exact .string _
    · exact .integer _
    · refine .array (List.forall_mem_cons.mpr ⟨.null, List.forall_mem_singleton.mpr ?_⟩)
      exact .object (List.forall_mem_nil _)
  have storable : document.IsStorable := ⟨rfl, by decide, floatless, by decide⟩
  obtain ⟨survives, -⟩ := documents_survive store
  obtain ⟨inserted, -, restored⟩ := survives rfl "meta" (by decide) document storable
  rw [written] at inserted restored
  obtain ⟨statement, sent, binds⟩ := inserted (.object [("id", one), ("meta", document)]) _ .all _
    (.one _) (by decide) rfl _ (.head _) rfl
  rw [List.mem_singleton.mp sent] at binds
  exact ⟨written, storable, by decide, binds, restored _ "" rfl⟩

/-- A text is bound as it is when it is inserted into a column of documents or assigned to one. A
row that gives it back is read with the same text exactly if the text spells no document, and
otherwise with the document that it spells. -/
theorem texts_survive_unspelled (sqlite : store.backend = .sqlite)
    (declared : store.table.kindOf? column = some .json) :
    (∀ data records projection statements, data.IsRecords records → data.isWellKeyed = true →
      store.insertStatements data projection = .ok statements →
      ∀ record ∈ records, record.get? column = some (.string text) →
        ∃ statement ∈ statements, statement.BindsText column (.string text) text) ∧
    (∀ (members : Members) options statement,
      store.updateStatement (.object members) options = .ok statement →
      members.get? column = some (.string text) →
        statement.BindsText column (.string text) text) ∧
    ∀ record query, record.get? column = some (.string text) →
      ∃ row, store.readRow RowModel.record query record = .ok row ∧
        (row.get? column = some (.string text) ↔ ∀ document, Json.read text ≠ .ok document) ∧
        ∀ document, Json.read text = .ok document → row.get? column = some document := by
  -- A text is bound as it is, and so only the reading of the row can change it.
  refine ⟨?_, ?_, ?_⟩
  · intro data records projection statements given keyed made record listed found
    exact insert_bindsText rfl rfl given keyed made listed found
  · intro members options statement made found
    exact update_bindsText rfl rfl made found
  · intro record query found
    refine ⟨_, readRow_sqlite sqlite query record, ?_⟩
    rw [Record.get?_restore, found, declared, Option.map_some, Record.restoreValue]
    -- What is read is the text itself if the reader of documents fails on it.
    cases read : Json.read text with
    | error failure => simp
    | ok document =>
      -- No text spells the string of its own characters.
      have other : document ≠ .string text := by
        rintro rfl
        exact Json.read_ne_string text read
      simp [other]

/-- A title in a column of documents is read back as it is, and a text of digits as a number. -/
theorem texts_survive_unspelled_books :
    let table : Table := .booksWith "meta" .json (by decide)
    let store : Store := ⟨table, .sqlite, .default⟩
    (∃ row, store.readRow RowModel.record "" [("meta", .string "Emma")] = .ok row ∧
      row.get? "meta" = some (.string "Emma")) ∧
    ∃ row, store.readRow RowModel.record "" [("meta", .string "42")] = .ok row ∧
      row.get? "meta" = some (.integer ⟨42, by decide⟩) := by
  -- What the two texts spell is computed: the one nothing, and the other one a number.
  intro table store
  have word : ∀ document, Json.read "Emma" ≠ .ok document := by
    have failed : Json.read "Emma" = .error ⟨.expectedValue, 1, 1⟩ := by decide +kernel
    rw [failed]
    exact nofun
  obtain ⟨-, -, read⟩ := @texts_survive_unspelled store "meta" "Emma" rfl (by decide)
  obtain ⟨row, given, same, -⟩ := read [("meta", .string "Emma")] "" rfl
  obtain ⟨-, -, reread⟩ := @texts_survive_unspelled store "meta" "42" rfl (by decide)
  obtain ⟨other, taken, -, changed⟩ := reread [("meta", .string "42")] "" rfl
  have number : Json.read "42" = .ok (.integer ⟨42, by decide⟩) := by decide +kernel
  exact ⟨⟨row, given, same.mpr word⟩, other, taken, changed _ number⟩

/-- A text of digits is inserted into a column of documents of an empty table. The row that is given
back, and the one that is found later, hold the number in its place. -/
theorem texts_survive_not :
    let table : Table := .booksWith "meta" .json (by decide)
    let store : Store := ⟨table, .sqlite, .default⟩
    let database : Engine.Database := [.new "books"
      [⟨"id", .integer, true, false, false, false, .null, none⟩,
        ⟨"meta", .text, false, false, false, false, .null, none⟩]]
    let one : Json := .integer ⟨1, by decide⟩
    let inserted := store.insert (Session.link none) RowModel.record
      (.object [("id", one), ("meta", .string "42")]) .all (.start .sqlite database)
    let everything : FindOptions := ⟨.all, none, none, none, none, .ignore⟩
    let changed : Record := [("id", one), ("meta", .integer ⟨42, by decide⟩)]
    table.kindOf? "meta" = some .json ∧ inserted.1 = .ok [changed] ∧
    (store.find (Session.link none) RowModel.record everything inserted.2).1 = .ok [changed] ∧
    changed.get? "meta" ≠ some (.string "42") := by
  -- The table, the row and both operations are fixed, and everything is run through.
  intro table store database one inserted everything changed
  exact ⟨by decide, by decide +kernel, by decide +kernel, by decide⟩

end Store

end RowFilter
