import RowFilter.Proofs.Schema.Decoding

/-! What a request that its schema accepts is read as, and when it cannot be read. -/

namespace RowFilter

/-- Whether a document is a whole number of 32 bits, written as an integer. -/
def Json.IsWord (document : Json) : Prop :=
  -- A whole number that is written as a fraction is none.
  ∃ number : WideInt, document = .integer number ∧ 0 ≤ number.value ∧ number.value ≤ 4294967295

/-- Whether a document chooses the fields of a projection: a star stands for all of them. -/
def Projection.IsSpelledBy : Projection → Json → Prop
  -- A list with a star in it chooses all fields as well.
  | .all, document => document = .string "*" ∨
      ∃ names : List String, document = .array (names.map .string) ∧ "*" ∈ names
  | .columns names, document => document = .array (names.map .string) ∧ "*" ∉ names

/-- Whether a document, if there is one, names a direction; without one it is ascending. -/
def Direction.IsSpelledBy : Direction → Option Json → Prop
  -- The words stand in small or in capital letters, and not in both.
  | .ascending, document =>
    document = none ∨ document = some (.string "asc") ∨ document = some (.string "ASC")
  | .descending, document => document = some (.string "desc") ∨ document = some (.string "DESC")

namespace SortKey

/-- Whether an object says what a sort key is, with either name for the direction. -/
def IsSpelledBy (key : SortKey) (item : Json) : Prop :=
  -- Either name may be missing, and so may both.
  ∃ members : Members, item = .object members ∧
    members.get? "column" = some (.string key.column) ∧
    key.direction.IsSpelledBy ((members.get? "direction").or (members.get? "order"))

/-- Whether a sort key has both names for its direction. -/
def NamesBoth (item : Json) : Prop :=
  -- What stands under the two names does not matter.
  ∃ members : Members, item = .object members ∧
    (members.get? "direction").isSome ∧ (members.get? "order").isSome

end SortKey

namespace FindRequest

/-- Whether the members of an object say what a request is: each part is absent exactly if its
member is. -/
structure IsSpelledBy (request : FindRequest) (members : Members) : Prop where
  projection : Option.Rel Projection.IsSpelledBy request.projection (members.get? "selectedFields")
  filter : Option.Rel (fun filter document => Filter.ofJson document = .ok filter)
    request.filter (members.get? "filters")
  order : Option.Rel (fun keys document => ∃ items, document = .array items ∧
      List.Forall₂ SortKey.IsSpelledBy keys items) request.order (members.get? "orderBy")
  limit : Option.Rel (fun word document => ∃ number : WideInt, document = .integer number ∧
      number.value = word.toNat) request.limit (members.get? "limit")
  offset : Option.Rel (fun word document => ∃ number : WideInt, document = .integer number ∧
      number.value = word.toNat) request.offset (members.get? "offset")

/-- Whether a request has a count that is no integer of 32 bits, or a sort key with two directions. -/
def IsUnreadable (members : Members) : Prop :=
  -- Such a request is accepted for its table, and still has no reading.
  (∃ name ∈ ["limit", "offset"], ∃ document,
    members.get? name = some document ∧ ¬ document.IsWord) ∨
  ∃ items, members.get? "orderBy" = some (.array items) ∧ ∃ item ∈ items, SortKey.NamesBoth item

end FindRequest

namespace SortKey

/-- Whether members are those of a sort key, which may have its direction under either name. -/
structure IsWritten (members : Members) : Prop where
  known : ∀ member ∈ members, member.1 ∈ ["column", "direction", "order"]
  column : ∃ name, members.get? "column" = some (.string name)
  direction : ∀ name ∈ ["direction", "order"], ∀ document, members.get? name = some document →
    ∃ word ∈ Direction.names, document = .string word

/-- A sort key with one name for its direction is read as what it spells. -/
theorem decode_spelled {members : Members} (distinct : (members.map Prod.fst).Nodup)
    (written : IsWritten members) (single : ¬ NamesBoth (.object members)) :
    ∃ key, decode (.ofJson (.object members)) = .ok key ∧ key.IsSpelledBy (.object members) := by
  -- The column is read from its own member, and the direction from the other one.
  obtain ⟨name, named⟩ := written.column
  have apart : ¬ ((members.get? "direction").isSome ∧ (members.get? "order").isSome) :=
    fun both => single ⟨members, rfl, both⟩
  -- The direction is read from the one document that spells it, if there is one.
  have directed : ∃ set : Option Direction, Decode.Sets Direction.decode none
        (members.under ["direction", "order"]) set ∧ (set.getD .ascending).IsSpelledBy
          ((members.get? "direction").or (members.get? "order")) := by
    rw [Members.under_two_single distinct (by decide) apart]
    cases spelled : (members.get? "direction").or (members.get? "order") with
    | none => exact ⟨none, .nil, .inl rfl⟩
    | some document =>
      have word : ∃ word ∈ Direction.names, document = .string word := by
        rcases Option.or_eq_some_iff.mp spelled with own | ⟨-, own⟩
        · exact written.direction "direction" (by simp) document own
        · exact written.direction "order" (by simp) document own
      obtain ⟨word, listed, rfl⟩ := word
      simp only [Direction.names, List.mem_cons, List.not_mem_nil, or_false] at listed
      rcases listed with rfl | rfl | rfl | rfl
      · exact ⟨some .ascending, .cons rfl .nil, by simp [Direction.IsSpelledBy]⟩
      · exact ⟨some .ascending, .cons rfl .nil, by simp [Direction.IsSpelledBy]⟩
      · exact ⟨some .descending, .cons rfl .nil, by simp [Direction.IsSpelledBy]⟩
      · exact ⟨some .descending, .cons rfl .nil, by simp [Direction.IsSpelledBy]⟩
  obtain ⟨set, sets, right⟩ := directed
  refine ⟨⟨name, set.getD .ascending⟩, decode_ok.mpr ⟨⟨some name, set⟩, ?_, rfl, rfl⟩,
    members, rfl, named, right⟩
  refine (foldlM_decodeMember written.known).mpr ⟨?_, sets⟩
  rw [Members.under_one distinct, named]
  exact .cons rfl .nil

end SortKey

open Schema

/-- Whether members are those of a request for rows of a table, whose counts may be any numbers. -/
structure Table.IsRequest (table : Table) (members : Members) : Prop where
  known : ∀ member ∈ members, member.1 ∈ FindRequest.fieldNames
  selection : ∀ document, members.get? "selectedFields" = some document →
    table.IsSelection document
  filter : ∀ document, members.get? "filters" = some document → table.IsFilter document
  order : ∀ document, members.get? "orderBy" = some document → ∃ items, document = .array items ∧
    ∀ item ∈ items, ∃ own : Members, item = .object own ∧ (own.map Prod.fst).Nodup ∧
      SortKey.IsWritten own
  counts : ∀ name ∈ ["limit", "offset"], ∀ document, members.get? name = some document →
    document ≠ .null

namespace Table

variable {table : Table}

end Table

/-- A choice of fields of a table is read as what it spells. -/
theorem Projection.decode_spelled {table : Table} {document : Json}
    (wellKeyed : document.isWellKeyed = true) (chosen : table.IsSelection document) :
    document ≠ .null ∧ ∃ projection : Projection,
      decode (.ofJson document) = .ok projection ∧ projection.IsSpelledBy document := by
  -- The document is read whole, and then as a choice of fields.
  have decoded : decode (.ofJson document)
      = (ofJson? document).elim (.error (.refused noProjection)) .ok := by
    rw [decode, Decode.json_ofJson wellKeyed]
    simp only [bind, Except.bind]
    cases ofJson? document <;> rfl
  rw [decoded]
  -- A star among the names stands for all fields, as it does by itself.
  rcases chosen with rfl | ⟨names, rfl, -, -⟩
  · exact ⟨by simp, .all, rfl, .inl rfl⟩
  · refine ⟨by simp, .ofNames names, by rw [ofJson?, Json.mapM_text?]; rfl, ?_⟩
    unfold ofNames
    split
    · rename_i starred
      exact .inr ⟨names, rfl, starred⟩
    · rename_i starless
      exact ⟨rfl, starless⟩

/-- A filter on a table is read as what the reader of filters makes of it. -/
theorem Filter.decode_spelled {table : Table} {document : Json}
    (wellKeyed : document.isWellKeyed = true) (allowed : table.IsFilter document) :
    document ≠ .null ∧ ∃ filter,
      Filter.decode (.ofJson document) = .ok filter ∧ Filter.ofJson document = .ok filter := by
  -- What the schema lets through is read, and null is no filter.
  obtain ⟨filter, read, -⟩ := Filter.ofJson_isFilter wellKeyed allowed
  refine ⟨?_, filter, ?_, read⟩
  · rintro rfl
    rcases allowed with ⟨members, same, -⟩ | ⟨clauses, same, -⟩ <;> cases same
  · rw [Filter.decode, Decode.json_ofJson wellKeyed]
    show (Filter.ofJson document).mapError _ = _
    rw [read]
    rfl

/-- An order is read as what it spells if none of its keys has both names for its direction. -/
theorem SortKey.decode_order {items : List Json}
    (written : ∀ item ∈ items, ∃ own : Members, item = .object own ∧
      (own.map Prod.fst).Nodup ∧ IsWritten own)
    (single : ∀ item ∈ items, ¬ NamesBoth item) :
    ∃ keys, Decode.list decode (.ofJson (.array items)) = .ok keys ∧
      List.Forall₂ IsSpelledBy keys items := by
  -- Each key is read by itself, and the order is the list of them.
  have each : ∀ item ∈ items, ∃ key, decode (.ofJson item) = .ok key ∧ key.IsSpelledBy item := by
    intro item listed
    obtain ⟨own, rfl, distinct, form⟩ := written item listed
    exact decode_spelled distinct form (single _ listed)
  obtain ⟨keys, related⟩ := Result.exists_forall₂ each
  exact ⟨keys, Decode.list_ok.mpr (related.imp fun _ _ => And.left),
    related.imp fun _ _ => And.right⟩

/-- A word is read from its document. -/
theorem Json.IsWord.read {document : Json} (fits : document.IsWord) :
    document ≠ .null ∧ ∃ word, Decode.word32 (.ofJson document) = .ok word ∧
      ∃ number : WideInt, document = .integer number ∧ number.value = word.toNat := by
  -- A word is a whole number within the bounds of its type.
  obtain ⟨number, rfl, low, high⟩ := fits
  -- The bounds are those of the type, and nothing is cut off.
  have same : number.value = (UInt32.ofNat number.value.toNat).toNat := by
    rw [UInt32.toNat_ofNat']
    omega
  exact ⟨by simp, _, Decode.word32_ok.mpr ⟨number, rfl, same⟩, number, rfl, same⟩

namespace FindRequest

variable {table : Table} {members : Members}

/-- A request that is not unreadable is read as what it spells. -/
theorem decode_spelled (wellKeyed : (Json.object members).isWellKeyed = true)
    (request : table.IsRequest members) (readable : ¬ IsUnreadable members) :
    ∃ request, decode (.ofJson (.object members)) = .ok request ∧ request.IsSpelledBy members := by
  -- What is not unreadable has words for counts, and sort keys with one direction.
  obtain ⟨distinct, values⟩ := Json.isWellKeyed_object.mp wellKeyed
  have own : ∀ {name document}, members.get? name = some document → document.isWellKeyed = true :=
    fun found => values _ (Members.mem_of_get? found)
  have count : ∀ name ∈ ["limit", "offset"], ∀ document, members.get? name = some document →
      document.IsWord := by
    intro name either document found
    by_contra wrong
    exact readable (.inl ⟨name, either, document, found, wrong⟩)
  -- Each part is read from its member, if there is one.
  obtain ⟨projection, chosen, projected⟩ := Decode.exists_sets fun document found =>
    Projection.decode_spelled (own found) (request.selection document found)
  obtain ⟨filter, constrained, filtered⟩ := Decode.exists_sets fun document found =>
    Filter.decode_spelled (own found) (request.filter document found)
  obtain ⟨order, sorted, ordered⟩ := @Decode.exists_sets _ (Decode.list SortKey.decode)
    (fun keys document => ∃ items, document = .array items ∧
      List.Forall₂ SortKey.IsSpelledBy keys items) (members.get? "orderBy")
    fun document found => by
      obtain ⟨items, rfl, written⟩ := request.order document found
      obtain ⟨keys, read, spelled⟩ := SortKey.decode_order written fun item listed both =>
        readable (.inr ⟨items, found, item, listed, both⟩)
      exact ⟨by simp, keys, read, items, rfl, spelled⟩
  obtain ⟨limit, limited, atMost⟩ := Decode.exists_sets fun document found =>
    (count "limit" (by simp) document found).read
  obtain ⟨offset, skipped, past⟩ := Decode.exists_sets fun document found =>
    (count "offset" (by simp) document found).read
  exact ⟨_, (decode_ok distinct request.known).mpr ⟨⟨projection, filter, order, limit, offset⟩, rfl,
    chosen, constrained, sorted, limited, skipped⟩, ⟨projected, filtered, ordered, atMost, past⟩⟩

end FindRequest

end RowFilter
