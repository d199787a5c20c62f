import RowFilter.Proofs.Json.Keys
import RowFilter.Schema.Validation

/-! A schema objects to exactly the documents that it does not accept. -/

namespace RowFilter

namespace Schema

/-- There is no objection to a list whose length is within bounds and whose items differ. -/
theorem listMessages_eq_nil (least most : Option Nat) (different : Bool) (documents : List Json) :
    listMessages least most different documents = []
      ↔ withinBounds least most documents.length = true ∧
        (!different || Json.allDifferent documents) = true := by
  -- The three sorts of objections are told one after the other, and each is silent by itself.
  simp only [listMessages, List.append_eq_nil_iff, List.map_eq_nil_iff, List.filter_eq_nil_iff,
    withinBounds, Bool.and_eq_true]
  refine and_congr (and_congr ?_ ?_) ?_
  · cases least <;> simp
  · cases most <;> simp
  · cases different <;> simp

/-- There is no objection to an object that has the required keys and no unknown ones. -/
theorem keyMessages_eq_nil (known required : List String) (members : Members) :
    keyMessages known required members = []
      ↔ hasKeys required members = true ∧ onlyKeys known members = true := by
  -- The unknown keys and the missing ones are told apart.
  have unknown : (members.keys.filter fun key => !known.contains key) = []
      ↔ onlyKeys known members = true := by
    simp [List.filter_eq_nil_iff, onlyKeys, Members.keys]
  have missing : (required.filter fun key => (members.get? key).isNone) = []
      ↔ hasKeys required members = true := by
    simp [List.filter_eq_nil_iff, hasKeys, Option.isSome_iff_ne_none]
  simp only [keyMessages, List.append_eq_nil_iff, List.map_eq_nil_iff]
  rw [← unknown, ← missing]
  refine and_congr Iff.rfl ?_
  -- All unknown keys are told in one message, so there is one only if there are some.
  generalize (members.keys.filter fun key => !known.contains key) = extra
  cases extra <;> simp

mutual

/-- A schema objects to nothing exactly if it accepts the document. -/
theorem violations_eq_nil : ∀ (schema : Schema) (path : List String) (document : Json),
    violations path schema document = [] ↔ accepts schema document = true
  -- By recursion on the schema, together with that for properties.
  | .typed type, path, document => by simp [violations, accepts]
  | .typedAmong types, path, document => by simp [violations, accepts]
  | .constant value, path, document => by simp [violations, accepts]
  | .among values, path, document => by simp [violations, accepts]
  | .anyOf options, path, document => by simp [violations, accepts]
  | .list items least most different, path, document => by
    cases document with
    | array documents =>
      -- An item is checked under its index, which does not matter for whether it passes.
      have each : (documents.zipIdx.flatMap fun (document, index) =>
            violations (path ++ [toString index]) items document) = []
          ↔ documents.all (accepts items) = true := by
        rw [List.flatMap_eq_nil_iff, List.all_eq_true]
        constructor
        · intro silent document member
          obtain ⟨index, placed⟩ := List.mem_iff_getElem?.mp member
          have own := silent (document, index) (List.mem_zipIdx_iff_getElem?.mpr placed)
          exact (violations_eq_nil items _ document).mp own
        · intro accepted ⟨document, index⟩ placed
          have member : document ∈ documents :=
            List.mem_iff_getElem?.mpr ⟨index, List.mem_zipIdx_iff_getElem?.mp placed⟩
          exact (violations_eq_nil items _ document).mpr (accepted document member)
      rw [violations, accepts, List.append_eq_nil_iff, List.map_eq_nil_iff, each,
        listMessages_eq_nil, Bool.and_eq_true, Bool.and_eq_true, and_assoc]
    | _ => simp [violations, accepts]
  | .record properties required, path, document => by
    cases document with
    | object members =>
      rw [violations, accepts, List.append_eq_nil_iff, List.map_eq_nil_iff,
        propertyViolations_eq_nil properties path members, keyMessages_eq_nil, Bool.and_eq_true,
        Bool.and_eq_true, and_assoc]
    | _ => simp [violations, accepts]
  | .count, path, document => by
    cases whole : JsonType.integer.holds document <;> cases below : document.isBelowZero <;>
      simp [violations, accepts, whole, below]

/-- There is no objection to properties exactly if all that are there are accepted. -/
theorem propertyViolations_eq_nil : ∀ (properties : List (String × Schema)) (path : List String)
    (members : Members), propertyViolations path properties members = []
      ↔ acceptsProperties properties members = true
  -- By recursion on the properties, each of which looks for its own key.
  | [], path, members => by simp [propertyViolations, acceptsProperties]
  | (key, schema) :: rest, path, members => by
    rw [propertyViolations, acceptsProperties, List.append_eq_nil_iff, Bool.and_eq_true,
      propertyViolations_eq_nil rest path members]
    refine and_congr ?_ Iff.rfl
    cases members.get? key with
    | none => simp
    | some value => simpa using violations_eq_nil schema (path ++ [key]) value

end

/-- The properties of an object are accepted if each of them is that has a value. -/
theorem acceptsProperties_iff {properties : List (String × Schema)} {members : Members} :
    acceptsProperties properties members = true ↔ ∀ property ∈ properties, ∀ value,
      members.get? property.1 = some value → accepts property.2 value = true := by
  -- A property without a value has nothing that could be objected to.
  induction properties with
  | nil => simp [acceptsProperties]
  | cons property rest ih =>
    rw [acceptsProperties, Bool.and_eq_true, ih, List.forall_mem_cons]
    refine and_congr ?_ Iff.rfl
    cases members.get? property.1 <;> simp

/-- An object without repeated keys is accepted if it has all required keys and each of its members
is accepted under its own key. -/
theorem accepts_record {properties : List (String × Schema)} {required : List String}
    {members : Members} (known : (properties.map Prod.fst).Nodup)
    (distinct : (members.map Prod.fst).Nodup) :
    accepts (.record properties required) (.object members) = true
      ↔ (∀ key ∈ required, ∃ value, (key, value) ∈ members) ∧
        ∀ member ∈ members, ∃ schema,
          (member.1, schema) ∈ properties ∧ accepts schema member.2 = true := by
  -- That a required key is there says the same of the first member with it and of any.
  have present : hasKeys required members = true
      ↔ ∀ key ∈ required, ∃ value, (key, value) ∈ members := by
    simp only [hasKeys, List.all_eq_true, Option.isSome_iff_exists]
    refine forall₂_congr fun key _ => exists_congr fun value => ?_
    exact ⟨Members.mem_of_get?, Members.get?_of_mem distinct⟩
  rw [accepts, Bool.and_eq_true, Bool.and_eq_true, present, acceptsProperties_iff, onlyKeys,
    List.all_eq_true]
  constructor
  · rintro ⟨⟨accepted, complete⟩, closed⟩
    refine ⟨complete, fun member listed => ?_⟩
    have named : member.1 ∈ properties.map Prod.fst := by simpa using closed member listed
    obtain ⟨⟨key, schema⟩, property, same⟩ := List.mem_map.mp named
    have same : key = member.1 := same
    rw [same] at property
    exact ⟨schema, property, accepted _ property _ (Members.get?_of_mem distinct listed)⟩
  · rintro ⟨complete, accepted⟩
    refine ⟨⟨fun property declared value found => ?_, complete⟩, fun member listed => ?_⟩
    · obtain ⟨schema, other, accepts⟩ := accepted _ (Members.mem_of_get? found)
      -- There is only one property under the key of the member.
      have same : property = (property.1, schema) :=
        List.inj_on_of_nodup_map known declared other rfl
      rw [same]
      exact accepts
    · obtain ⟨schema, property, -⟩ := accepted member listed
      simpa using ⟨schema, property⟩

/-- Nothing but an object is accepted as a record. -/
theorem accepts_record_object {properties : List (String × Schema)} {required : List String}
    {document : Json} (accepted : accepts (.record properties required) document = true) :
    ∃ members, document = .object members := by
  -- No other form of document gets past the schema.
  cases document with
  | object members => exact ⟨members, rfl⟩
  | _ => simp [accepts] at accepted

end Schema

/-- The items of a list are all different exactly if no two of them are the same value. -/
theorem Json.allDifferent_iff {items : List Json} :
    allDifferent items = true ↔ items.Pairwise fun first second => ¬ sameValue first second := by
  -- By induction on the items, each of which is held against those behind it.
  induction items with
  | nil => simp [allDifferent]
  | cons item rest ih => simp [allDifferent, ih]

end RowFilter
