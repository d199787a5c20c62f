import RowFilter.Proofs.Schema.Validation

/-! A request that the schema of a table accepts is read as one about this table. -/

namespace RowFilter

/-- Whether a document orders rows by fields of a table: a list of keys whose columns are names of
fields. -/
def Table.IsOrder (table : Table) (document : Json) : Prop :=
  -- Only the column of a key matters here, which is all that reaches a statement.
  ∃ keys, document = .array keys ∧ ∀ key ∈ keys, ∃ members, key = .object members ∧
    ∀ member ∈ members, member.1 = "column" → ∃ name ∈ table.fieldNames, member.2 = .string name

/-- Whether a member of a request is about a table, as far as it has columns. -/
structure Table.IsAsked (table : Table) (member : String × Json) : Prop where
  selection : member.1 = "selectedFields" → table.IsSelection member.2
  filter : member.1 = "filters" → table.IsFilter member.2
  order : member.1 = "orderBy" → table.IsOrder member.2

/-- Whether a request has no columns but those of a table, and a filter that suits it. -/
structure FindRequest.Within (table : Table) (request : FindRequest) : Prop where
  projection : ∀ projection, request.projection = some projection → projection.Within table
  filter : ∀ filter, request.filter = some filter → filter.Suits table
  order : ∀ keys, request.order = some keys → ∀ key ∈ keys, key.column ∈ table.fieldNames

open Schema

namespace Table

/-- The keys that an order consists of are accepted if their columns are fields of the table. -/
theorem isOrder_of_accepts {table : Table} (direction : Schema) {document : Json}
    (wellKeyed : document.isWellKeyed = true)
    (accepted : accepts (.list (.record [("column", .among table.fieldNames),
      ("direction", direction), ("order", direction)] ["column"]) none none false) document
        = true) : table.IsOrder document := by
  -- Each key is a record, whose column is one of the names that its schema lists.
  cases document with
  | array keys =>
    simp only [accepts, Bool.and_eq_true, List.all_eq_true] at accepted
    refine ⟨keys, rfl, fun key listed => ?_⟩
    have own := accepted.1.1 key listed
    obtain ⟨members, rfl⟩ := accepts_record_object own
    obtain ⟨distinct, -⟩ :=
      Json.isWellKeyed_object.mp (Json.isWellKeyed_array.mp wellKeyed _ listed)
    rw [accepts_record (by simp) distinct] at own
    -- The column is judged by the property for columns, and that lists the fields.
    refine ⟨members, rfl, fun member given named => ?_⟩
    obtain ⟨schema, property, fits⟩ := own.2 member given
    have names : schema = .among table.fieldNames := by simpa [named] using property
    simpa [names, accepts] using fits
  | _ => simp [accepts] at accepted

/-- Each member of an accepted request is about the table. -/
theorem isAsked_of_accepts {table : Table} {payload : Json} (wellKeyed : payload.isWellKeyed = true)
    (accepted : accepts table.requestSchema payload = true) :
    ∃ members, payload = .object members ∧ ∀ member ∈ members, table.IsAsked member := by
  -- A request is a record, and each of its properties has a schema of its own.
  obtain ⟨members, rfl⟩ := accepts_record_object accepted
  obtain ⟨distinct, values⟩ := Json.isWellKeyed_object.mp wellKeyed
  rw [requestSchema, accepts_record (by simp) distinct] at accepted
  refine ⟨members, rfl, fun member listed => ?_⟩
  -- The key of a member singles out the schema that has accepted its value.
  obtain ⟨schema, property, fits⟩ := accepted.2 member listed
  have own := values member listed
  refine ⟨fun named => ?_, fun named => ?_, fun named => ?_⟩
  · have same : schema = table.projectionSchema := by simpa [named] using property
    exact (accepts_projectionSchema _).mp (same ▸ fits)
  · have same : schema = table.filterSchema := by simpa [named] using property
    exact (accepts_filterSchema own).mp (same ▸ fits)
  · refine isOrder_of_accepts (.among ["asc", "desc", "ASC", "DESC"]) own ?_
    simp only [named, List.mem_cons, Prod.mk.injEq, String.reduceEq, false_and, true_and, false_or,
      List.not_mem_nil, or_false] at property
    rw [← property]
    exact fits

end Table

namespace Decode

/-- What is set by a member is read from its value. -/
theorem once_ok {α β : Type} {name : String} {old : Option α} {decoder : Decoder α} {draft : Draft}
    {put : Option α → β} {after : β}
    (decoded : (once name old decoder draft).map put = .ok after) :
    ∃ value, decoder draft = .ok value ∧ after = put (some value) := by
  -- The decoder is asked only if there is nothing to be repeated.
  obtain ⟨set, own, same⟩ := Result.map_ok decoded
  -- A member that has been set before is an error.
  cases old with
  | some value => cases own
  | none =>
    obtain ⟨value, read, rfl⟩ := Result.map_ok own
    exact ⟨value, read, same.symm⟩

/-- What is set by a member that may be null is read from its value, unless it is null. -/
theorem once_optional_ok {α β : Type} {name : String} {old : Option (Option α)}
    {decoder : Decoder α} {draft : Draft} {put : Option (Option α) → β} {after : β}
    (decoded : (once name old (optional decoder) draft).map put = .ok after) :
    ∃ value, after = put (some value) ∧ ∀ own, value = some own → decoder draft = .ok own := by
  -- Null sets the member to nothing, and then there is no value to speak of.
  obtain ⟨value, read, same⟩ := once_ok decoded
  refine ⟨value, same, fun own present => ?_⟩
  rw [present] at read
  unfold optional at read
  split at read
  · cases read
  · obtain ⟨given, own_read, equal⟩ := Result.map_ok read
    cases equal
    exact own_read

/-- What each member of a document preserves holds of what is read from all of them. -/
theorem members_invariant {σ : Type} {step : σ → String → Draft → Except DecodeError σ}
    (holds : σ → Prop) {members : Members} {start final : σ}
    (kept : ∀ member ∈ members, ∀ state after, holds state →
      step state member.1 (.ofJson member.2) = .ok after → holds after)
    (initial : holds start)
    (decoded : Decode.members step start (Draft.ofMembers members) none = .ok final) :
    holds final := by
  -- A draft of a document ends its members without a fault.
  obtain ⟨last, folded, behind⟩ := Result.bind_ok decoded
  cases behind
  -- The members are read from the first one to the last.
  clear decoded
  induction members generalizing start with
  | nil => cases folded; exact initial
  | cons member rest ih =>
    obtain ⟨own, others⟩ := List.forall_mem_cons.mp kept
    rw [Draft.ofMembers, List.foldlM_cons] at folded
    obtain ⟨next, first, more⟩ := Result.bind_ok folded
    exact ih others (own start next initial first) more

/-- A well-keyed document is read as itself. -/
theorem json_ofJson {document : Json} (wellKeyed : document.isWellKeyed = true) :
    json (.ofJson document) = .ok document := by
  -- The draft spells the document that it was made of.
  rw [json, Draft.toJson_ofJson wellKeyed]
  rfl

end Decode

variable {table : Table}

/-- A choice of fields of a table is decoded as one. -/
theorem Projection.decode_isSelection {document : Json} {projection : Projection}
    (wellKeyed : document.isWellKeyed = true) (allowed : table.IsSelection document)
    (decoded : Projection.decode (.ofJson document) = .ok projection) :
    projection.Within table := by
  -- The document has been accepted and decoded, and both times it says which fields it chooses.
  obtain ⟨fields, read, within⟩ := Projection.ofJson?_isSelection allowed
  obtain ⟨own, taken, chosen⟩ := Result.bind_ok decoded
  rw [Decode.json_ofJson wellKeyed] at taken
  cases taken
  rw [read] at chosen
  cases chosen
  exact within

/-- A filter on a table is decoded as one that suits the table. -/
theorem Filter.decode_isFilter {document : Json} {filter : Filter}
    (wellKeyed : document.isWellKeyed = true) (allowed : table.IsFilter document)
    (decoded : Filter.decode (.ofJson document) = .ok filter) : filter.Suits table := by
  -- The document has been accepted and decoded, and both times it is read as the same filter.
  obtain ⟨own, read, suits⟩ := Filter.ofJson_isFilter wellKeyed allowed
  rw [decode, Decode.json_ofJson wellKeyed] at decoded
  have same : ((Filter.ofJson document).mapError fun error =>
      DecodeError.refused error.message) = .ok filter := decoded
  rw [read] at same
  cases same
  exact suits

namespace SortKey

/-- A sort key whose column is a field of a table is decoded with that column. -/
theorem decode_column {members : Members} {key : SortKey}
    (named : ∀ member ∈ members, member.1 = "column" →
      ∃ name ∈ table.fieldNames, member.2 = .string name)
    (decoded : SortKey.decode (.ofJson (.object members)) = .ok key) :
    key.column ∈ table.fieldNames := by
  -- The decoder reads the members one by one, and puts the key together behind them.
  obtain ⟨parts, read, behind⟩ := Result.bind_ok decoded
  obtain ⟨column, given, made⟩ := Result.bind_ok behind
  cases made
  -- Only the member for the column sets it.
  have known : ∀ name, parts.column = some name → name ∈ table.fieldNames := by
    refine Decode.members_invariant (fun parts : Parts =>
      ∀ name, parts.column = some name → name ∈ table.fieldNames) ?_ (by simp) read
    intro member listed state after before stepped name set
    unfold decodeMember at stepped
    split at stepped
    · rename_i isColumn
      obtain ⟨field, declared, value⟩ := named member listed isColumn
      obtain ⟨text, own, rfl⟩ := Decode.once_ok stepped
      rw [value] at own
      cases own
      cases set
      exact declared
    · split at stepped
      · obtain ⟨new, -, rfl⟩ := Result.map_ok stepped
        exact before name set
      · split at stepped
        · cases stepped
          exact before name set
        · cases stepped
  -- A key without a column is not made.
  cases column_set : parts.column with
  | none => rw [column_set] at given; cases given
  | some name =>
    rw [column_set] at given
    cases given
    exact known _ column_set

/-- An order by fields of a table is decoded as one. -/
theorem decode_isOrder {document : Json} {keys : List SortKey} (ordered : table.IsOrder document)
    (decoded : Decode.list SortKey.decode (.ofJson document) = .ok keys) :
    ∀ key ∈ keys, key.column ∈ table.fieldNames := by
  -- The keys are decoded one by one, each from its own document.
  obtain ⟨documents, rfl, each⟩ := ordered
  obtain ⟨read, mapped, behind⟩ := Result.bind_ok decoded
  cases behind
  intro key listed
  rw [Draft.ofItems_eq] at mapped
  obtain ⟨draft, member, own⟩ := Result.mem_of_mapM mapped listed
  obtain ⟨item, present, rfl⟩ := List.mem_map.mp member
  obtain ⟨members, rfl, named⟩ := each item present
  exact decode_column named own

end SortKey

namespace FindRequest

/-- A member that is about a table leaves what has been read about the table. -/
theorem decodeMember_within {parts after : Parts} {member : String × Json}
    (wellKeyed : member.2.isWellKeyed = true) (asked : table.IsAsked member)
    (within : (ofParts parts).Within table)
    (decoded : decodeMember parts member.1 (.ofJson member.2) = .ok after) :
    (ofParts after).Within table := by
  -- Each member sets its own field, and what the others have set stays as it is.
  unfold decodeMember at decoded
  split at decoded
  · rename_i named
    obtain ⟨value, rfl, read⟩ := Decode.once_optional_ok decoded
    exact ⟨fun projection set => Projection.decode_isSelection wellKeyed (asked.selection named)
      (read projection set), within.filter, within.order⟩
  split at decoded
  · rename_i named
    obtain ⟨value, rfl, read⟩ := Decode.once_optional_ok decoded
    exact ⟨within.projection, fun filter set => Filter.decode_isFilter wellKeyed
      (asked.filter named) (read filter set), within.order⟩
  split at decoded
  · rename_i named
    obtain ⟨value, rfl, read⟩ := Decode.once_optional_ok decoded
    exact ⟨within.projection, within.filter, fun keys set => SortKey.decode_isOrder
      (asked.order named) (read keys set)⟩
  split at decoded
  · obtain ⟨value, rfl, -⟩ := Decode.once_optional_ok decoded
    exact ⟨within.projection, within.filter, within.order⟩
  split at decoded
  · obtain ⟨value, rfl, -⟩ := Decode.once_optional_ok decoded
    exact ⟨within.projection, within.filter, within.order⟩
  · cases decoded

/-- A request that is about a table is decoded as one. -/
theorem decode_within {members : Members} {request : FindRequest}
    (wellKeyed : (Json.object members).isWellKeyed = true)
    (asked : ∀ member ∈ members, table.IsAsked member)
    (decoded : decode (.ofJson (.object members)) = .ok request) : request.Within table := by
  -- The parts start out without any column, and each member keeps to the table.
  obtain ⟨-, values⟩ := Json.isWellKeyed_object.mp wellKeyed
  obtain ⟨parts, read, rfl⟩ := Result.map_ok decoded
  exact Decode.members_invariant (fun parts => (ofParts parts).Within table)
    (fun member listed state after within =>
      decodeMember_within (values member listed) (asked member listed) within)
    ⟨by simp [ofParts], by simp [ofParts], by simp [ofParts]⟩ read

end FindRequest

/-- A request that is accepted for a table has no columns but those of the table, and a filter that
suits it. -/
theorem Table.validateRequest_within {payload : Json} {request : FindRequest}
    (wellKeyed : payload.isWellKeyed = true)
    (validated : table.validateRequest payload = .ok request) : request.Within table := by
  -- What is accepted is known of each member, and the members are what is decoded.
  obtain ⟨_, passed, read⟩ := Result.bind_ok validated
  obtain ⟨members, rfl, asked⟩ := isAsked_of_accepts wellKeyed (accepts_of_check passed)
  refine FindRequest.decode_within wellKeyed asked ?_
  cases decoded : FindRequest.decode (.ofJson (.object members)) with
  | error error => rw [decoded] at read; cases read
  | ok own => rw [decoded] at read; cases read; rfl

end RowFilter
