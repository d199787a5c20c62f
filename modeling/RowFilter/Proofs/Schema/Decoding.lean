import RowFilter.Proofs.Schema.Request

/-! Members of a request are read each into its own part, wherever they stand. -/

namespace RowFilter

namespace Members

/-- The values that stand under some names, in order. -/
def under (names : List String) (members : Members) : List Json :=
  -- Names that stand for the same field are asked for together.
  (members.filter fun member => member.1 ∈ names).map Prod.snd

/-- Under one name stands its value. -/
theorem under_one {members : Members} (distinct : (members.map Prod.fst).Nodup) (name : String) :
    members.under [name] = (members.get? name).toList := by
  -- By induction on the members, up to the one with the name.
  induction members with
  | nil => rfl
  | cons member rest ih =>
    obtain ⟨fresh, behind⟩ := List.nodup_cons.mp distinct
    by_cases same : member.1 = name
    · -- No other member has the name.
      have alone : ∀ other ∈ rest, ¬ other.1 = name := fun other listed equal =>
        fresh (List.mem_map.mpr ⟨other, listed, equal.trans same.symm⟩)
      simpa [under, get?, same] using alone
    · simpa [under, get?, same] using ih behind

/-- Under two names stand the values of both. -/
theorem under_two {members : Members} (distinct : (members.map Prod.fst).Nodup)
    {first second : String} (apart : first ≠ second) :
    (members.under [first, second]).Perm
      ((members.get? first).toList ++ (members.get? second).toList) := by
  -- The members under one of the names are those under the first and those under the second.
  rw [← under_one distinct, ← under_one distinct, under, under, under, ← List.map_append]
  refine List.Perm.map _ ((List.filter_append_perm (·.1 = first) _).symm.trans (.of_eq ?_))
  rw [List.filter_filter, List.filter_filter]
  refine congrArg₂ (· ++ ·) (List.filter_congr ?_) (List.filter_congr ?_)
  · simp +contextual
  · intro member listed
    by_cases same : member.1 = first <;> simp [same, apart]

/-- Under two names of which one has no value stands that of the other. -/
theorem under_two_single {members : Members} (distinct : (members.map Prod.fst).Nodup)
    {first second : String} (apart : first ≠ second)
    (single : ¬ ((members.get? first).isSome ∧ (members.get? second).isSome)) :
    members.under [first, second] = ((members.get? first).or (members.get? second)).toList := by
  -- What stands under both names is one value at most, and so its order is no matter.
  have values := under_two distinct apart
  cases one : members.get? first <;> cases other : members.get? second <;> simp_all

end Members

namespace Decode

variable {α : Type} {decoder : Decoder α}

/-- Whether a field that may be set goes from one value to another when documents are read into it
one after another: it takes one document at most, and none if it is set. -/
def Sets (decoder : Decoder α) (old : Option α) (documents : List Json) (set : Option α) : Prop :=
  -- A second document is an error even if it is the same as the first.
  match old with
  | none => List.Forall₂ (fun value document => decoder (.ofJson document) = .ok value)
      set.toList documents
  | some _ => documents = [] ∧ set = old

/-- A field without documents stays as it is. -/
theorem sets_nil {old set : Option α} : Sets decoder old [] set ↔ set = old := by
  -- No document sets an unset field, nor a set one again.
  cases old <;> cases set <;> simp [Sets]

/-- The documents of a field are read from the first one on. -/
theorem sets_cons (name : String) {old set : Option α} {document : Json} {rest : List Json} :
    Sets decoder old (document :: rest) set
      ↔ ∃ next, once name old decoder (.ofJson document) = .ok next ∧
        Sets decoder next rest set := by
  -- Only an unset field reads the first document, and it is set behind that.
  cases old with
  -- A field that is set takes no more documents.
  | some value => simp [Sets, once]
  | none =>
    simp only [Sets, once, Result.map_ok_iff]
    cases set <;> simp [and_comm]

/-- The members of a document are read from the first one to the last. -/
theorem members_ofMembers {σ : Type} (step : σ → String → Draft → Except DecodeError σ) (start : σ)
    (members : Members) : Decode.members step start (Draft.ofMembers members) none
      = members.foldlM (fun state member => step state member.1 (.ofJson member.2)) start := by
  -- A draft that was made of a document has no fault behind its members.
  have each : Draft.ofMembers members = members.map fun member => (member.1, .ofJson member.2) := by
    induction members with
    | nil => rfl
    | cons member rest ih => rw [Draft.ofMembers, ih, List.map_cons]
  rw [Decode.members, each, List.foldlM_map]
  cases members.foldlM (fun state member => step state member.1 (.ofJson member.2)) start <;> rfl

/-- What may be null is read from any other document. -/
theorem optional_ofJson {document : Json} (given : document ≠ .null) :
    optional decoder (.ofJson document) = (decoder (.ofJson document)).map some := by
  -- Null is the one document that the decoder is not asked about.
  cases document with
  | null => exact absurd rfl given
  | _ => rfl

/-- A document that can be read sets its field to what it spells, and the field stays unset without
one. -/
theorem exists_sets {spelled : α → Json → Prop} {document : Option Json}
    (each : ∀ own, document = some own → own ≠ .null ∧
      ∃ value, decoder (.ofJson own) = .ok value ∧ spelled value own) :
    ∃ set : Option (Option α),
      Sets (optional decoder) none document.toList set ∧ Option.Rel spelled set.join document := by
  -- With a document there is something to read, and it is read as told.
  cases document with
  | none => exact ⟨none, .nil, .none⟩
  | some own =>
    obtain ⟨given, value, read, right⟩ := each own rfl
    refine ⟨some (some value), .cons ?_ .nil, .some right⟩
    rw [optional_ofJson given, read]
    rfl

/-- A word is read exactly from the integers of 32 bits. -/
theorem word32_ok {document : Json} {word : UInt32} :
    word32 (.ofJson document) = .ok word
      ↔ ∃ number : WideInt, document = .integer number ∧ number.value = word.toNat := by
  -- Bounds are looked at on whole numbers only, and other documents have none.
  cases document with
  | integer number =>
    have below := word.toNat_lt
    simp only [word32, Draft.ofJson, bounded, Json.integer.injEq, exists_eq_left']
    split
    · rename_i within
      rw [Result.map_ok_iff]
      simp only [Except.ok.injEq, exists_eq_left', ← UInt32.toNat_inj, UInt32.toNat_ofNat']
      omega
    · simp only [Result.map_ok_iff, reduceCtorEq, false_and, exists_false, false_iff]
      omega
  | _ => simp [word32, Draft.ofJson, bounded, Result.map_ok_iff]

/-- A list is read exactly if all of its items are. -/
theorem list_ok {items : List Json} {values : List α} :
    list decoder (.ofJson (.array items)) = .ok values
      ↔ List.Forall₂ (fun value item => decoder (.ofJson item) = .ok value) values items := by
  -- A draft that was made of an array has no fault behind its items.
  have mapped : list decoder (.ofJson (.array items)) = items.mapM (decoder ∘ .ofJson) := by
    rw [Draft.ofJson, Draft.ofItems_eq, list, List.mapM_map]
    cases items.mapM (decoder ∘ .ofJson) <;> rfl
  rw [mapped]
  exact ⟨Result.mapM_ok, Result.mapM_of_forall₂⟩

end Decode

/-- The parts of a sort key are read each from its own members. -/
theorem SortKey.foldlM_decodeMember {members : Members} {parts after : Parts}
    (known : ∀ member ∈ members, member.1 ∈ ["column", "direction", "order"]) :
    members.foldlM (fun state member => decodeMember state member.1 (.ofJson member.2)) parts
        = .ok after ↔
      Decode.Sets Decode.text parts.column (members.under ["column"]) after.column ∧
      Decode.Sets Direction.decode parts.direction (members.under ["direction", "order"])
        after.direction := by
  -- By induction on the members, with the parts that have been read before.
  induction members generalizing parts with
  | nil =>
    obtain ⟨column, direction⟩ := after
    cases parts
    simp [Members.under, Decode.sets_nil, pure, Except.pure, eq_comm]
  | cons member rest ih =>
    obtain ⟨key, document⟩ := member
    obtain ⟨own, others⟩ := List.forall_mem_cons.mp known
    simp only [List.mem_cons, List.not_mem_nil, or_false] at own
    rw [List.foldlM_cons, Result.bind_ok_iff]
    -- A member is read into its own part, and the other parts stay as they are.
    simp only [fun parts => @ih parts others]
    rcases own with rfl | rfl | rfl <;>
      simp [decodeMember, Members.under, Result.map_ok_iff, -exists_and_left, -exists_and_right]
    · simp only [Decode.sets_cons "column", ← exists_and_right, and_assoc]
    all_goals
      simp only [Decode.sets_cons "direction", ← exists_and_left, and_left_comm]

/-- The parts of a request are read each from its own members. -/
theorem FindRequest.foldlM_decodeMember {members : Members} {parts after : Parts}
    (known : ∀ member ∈ members, member.1 ∈ fieldNames) :
    members.foldlM (fun state member => decodeMember state member.1 (.ofJson member.2)) parts
        = .ok after ↔
      Decode.Sets (Decode.optional Projection.decode) parts.projection
        (members.under ["selectedFields"]) after.projection ∧
      Decode.Sets (Decode.optional Filter.decode) parts.filter
        (members.under ["filters"]) after.filter ∧
      Decode.Sets (Decode.optional (Decode.list SortKey.decode)) parts.order
        (members.under ["orderBy"]) after.order ∧
      Decode.Sets (Decode.optional Decode.word32) parts.limit
        (members.under ["limit"]) after.limit ∧
      Decode.Sets (Decode.optional Decode.word32) parts.offset
        (members.under ["offset"]) after.offset := by
  -- By induction on the members, with the parts that have been read before.
  induction members generalizing parts with
  | nil =>
    obtain ⟨projection, filter, order, limit, offset⟩ := after
    cases parts
    simp [Members.under, Decode.sets_nil, pure, Except.pure, eq_comm]
  | cons member rest ih =>
    obtain ⟨key, document⟩ := member
    obtain ⟨own, others⟩ := List.forall_mem_cons.mp known
    simp only [fieldNames, List.mem_cons, List.not_mem_nil, or_false] at own
    rw [List.foldlM_cons, Result.bind_ok_iff]
    -- One part is read from the member, and the members behind it are read by induction.
    simp only [fun parts => @ih parts others]
    rcases own with rfl | rfl | rfl | rfl | rfl <;>
      simp [decodeMember, Members.under, Result.map_ok_iff, -exists_and_left, -exists_and_right]
    · simp only [Decode.sets_cons "selectedFields", ← exists_and_right, and_assoc]
    · simp only [Decode.sets_cons "filters", ← exists_and_left, ← exists_and_right]
      exact exists_congr fun _ => by tauto
    · simp only [Decode.sets_cons "orderBy", ← exists_and_left, ← exists_and_right]
      exact exists_congr fun _ => by tauto
    · simp only [Decode.sets_cons "limit", ← exists_and_left, ← exists_and_right]
      exact exists_congr fun _ => by tauto
    · simp only [Decode.sets_cons "offset", ← exists_and_left]
      exact exists_congr fun _ => by tauto

/-- A sort key is made of the parts that are read from its members. -/
theorem SortKey.decode_ok {members : Members} {key : SortKey} :
    decode (.ofJson (.object members)) = .ok key ↔
      ∃ parts, members.foldlM (fun state member => decodeMember state member.1 (.ofJson member.2))
          ⟨none, none⟩ = .ok parts ∧
        parts.column = some key.column ∧ parts.direction.getD .ascending = key.direction := by
  -- The column is required, and the direction has a default.
  rw [Draft.ofJson, decode, Decode.members_ofMembers, Result.bind_ok_iff]
  refine exists_congr fun parts => and_congr_right fun _ => ?_
  obtain ⟨column, direction⟩ := key
  cases parts.column <;> simp [Decode.required, Result.bind_ok_iff, pure, Except.pure]

/-- What is read of a request is read of each of its members. -/
theorem FindRequest.decode_ok {members : Members} (distinct : (members.map Prod.fst).Nodup)
    (known : ∀ member ∈ members, member.1 ∈ fieldNames) {request : FindRequest} :
    decode (.ofJson (.object members)) = .ok request ↔ ∃ parts, ofParts parts = request ∧
      Decode.Sets (Decode.optional Projection.decode) none
        (members.get? "selectedFields").toList parts.projection ∧
      Decode.Sets (Decode.optional Filter.decode) none
        (members.get? "filters").toList parts.filter ∧
      Decode.Sets (Decode.optional (Decode.list SortKey.decode)) none
        (members.get? "orderBy").toList parts.order ∧
      Decode.Sets (Decode.optional Decode.word32) none
        (members.get? "limit").toList parts.limit ∧
      Decode.Sets (Decode.optional Decode.word32) none
        (members.get? "offset").toList parts.offset := by
  -- The parts are unset at the start, and what has been read of them is put together.
  rw [Draft.ofJson, decode, Decode.members_ofMembers, Result.map_ok_iff]
  refine exists_congr fun parts => ?_
  -- No part is set at the start, and each name has one value at most.
  rw [foldlM_decodeMember known, and_comm]
  simp only [Members.under_one distinct]

end RowFilter
