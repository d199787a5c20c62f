import Mathlib.Data.List.Nodup
import RowFilter.Json.Reader
import RowFilter.Proofs.Result

/-! Documents whose objects have each key once, as every document that is read has them. -/

namespace RowFilter

namespace Json

/-- Documents by induction, where arrays have their items and objects their members as a list. -/
@[elab_as_elim]
theorem induct {holds : Json → Prop} (null : holds .null) (bool : ∀ value, holds (.bool value))
    (integer : ∀ value, holds (.integer value)) (float : ∀ value, holds (.float value))
    (string : ∀ value, holds (.string value))
    (array : ∀ items, (∀ item ∈ items, holds item) → holds (.array items))
    (object : ∀ members, (∀ member ∈ members, holds member.2) → holds (.object members))
    (json : Json) : holds json := by
  -- Along the items and the members the property holds of each document.
  refine @Json.rec holds (fun items => ∀ item ∈ items, holds item)
    (fun members => ∀ member ∈ members, holds member.2) (fun member => holds member.2) null bool
    integer float string array object ?_ ?_ ?_ ?_ ?_ json
  · exact fun item member => absurd member List.not_mem_nil
  · exact fun first rest held others => List.forall_mem_cons.mpr ⟨held, others⟩
  · exact fun member listed => absurd listed List.not_mem_nil
  · exact fun first rest held others => List.forall_mem_cons.mpr ⟨held, others⟩
  · exact fun key value held => held

mutual

/-- Whether each object of a document has each of its keys once. -/
def isWellKeyed : Json → Bool
  -- Only objects have keys, and their values may be objects again.
  | .array items => allWellKeyed items
  | .object members => (members.map Prod.fst).Nodup && membersWellKeyed members
  | _ => true

/-- Whether all items are well keyed. -/
def allWellKeyed : List Json → Bool
  -- The recursion goes through lists of items, as the documents do.
  | [] => true
  | item :: rest => isWellKeyed item && allWellKeyed rest

/-- Whether the values of all members are well keyed. -/
def membersWellKeyed : List (String × Json) → Bool
  -- The keys have been looked at, and what is left are the values.
  | [] => true
  | (_, value) :: rest => isWellKeyed value && membersWellKeyed rest

end

/-- An array is well keyed if its items are. -/
theorem isWellKeyed_array {items : List Json} :
    (Json.array items).isWellKeyed = true ↔ ∀ item ∈ items, item.isWellKeyed = true := by
  -- The walk over the items is the quantifier over them.
  show allWellKeyed items = true ↔ _
  induction items with
  | nil => simp [allWellKeyed]
  | cons item rest ih => simp [allWellKeyed, ih]

/-- An object is well keyed if it has each key once and its values are well keyed. -/
theorem isWellKeyed_object {members : Members} :
    (Json.object members).isWellKeyed = true
      ↔ (members.map Prod.fst).Nodup ∧ ∀ member ∈ members, member.2.isWellKeyed = true := by
  -- By induction on the members as far as the values are concerned; the keys are not recursive.
  have values : membersWellKeyed members = true
      ↔ ∀ member ∈ members, member.2.isWellKeyed = true := by
    induction members with
    | nil => simp [membersWellKeyed]
    | cons member rest ih => simp [membersWellKeyed, ih]
  rw [isWellKeyed, Bool.and_eq_true, decide_eq_true_iff, values]

end Json

namespace Members

variable {members : Members} {key : String} {value : Json}

/-- What is found under a key is a member. -/
theorem mem_of_get? (found : members.get? key = some value) : (key, value) ∈ members := by
  -- The first member with the key is found, and it is one of them.
  obtain ⟨⟨other, own⟩, first, rfl⟩ := Option.map_eq_some_iff.mp found
  have same : other = key := by simpa using List.find?_some first
  rw [← same]
  exact List.mem_of_find?_eq_some first

/-- Each member is found under its key if no other one has that key. -/
theorem get?_of_mem (distinct : (members.map Prod.fst).Nodup) (member : (key, value) ∈ members) :
    members.get? key = some value := by
  -- The members before it have other keys.
  induction members with
  | nil => cases member
  | cons first rest ih =>
    obtain ⟨fresh, behind⟩ := List.nodup_cons.mp distinct
    rcases List.mem_cons.mp member with rfl | later
    · simp [get?]
    · have other : first.1 ≠ key := by
        rintro rfl
        exact fresh (List.mem_map.mpr ⟨_, later, rfl⟩)
      have found := ih behind later
      simpa [get?, List.find?_cons, other] using found

/-- An object with two keys consists of the two members that have them. -/
theorem perm_pair {first second : String × Json} (distinct : (members.map Prod.fst).Nodup)
    (chosen : first ∈ members) (given : second ∈ members) (apart : first.1 ≠ second.1)
    (closed : ∀ member ∈ members, member.1 = first.1 ∨ member.1 = second.1) :
    members.Perm [first, second] := by
  -- Both lists have the same members, each of them once.
  have two : first ≠ second := fun same => apart (congrArg Prod.fst same)
  refine (List.perm_ext_iff_of_nodup (List.Nodup.of_map _ distinct) (by simp [two])).mpr ?_
  intro member
  rw [List.mem_cons, List.mem_singleton]
  constructor
  · intro listed
    exact (closed member listed).imp (List.inj_on_of_nodup_map distinct listed chosen)
      (List.inj_on_of_nodup_map distinct listed given)
  · rintro (rfl | rfl)
    · exact chosen
    · exact given

/-- Inserting adds the key if it is new, and keeps the keys as they are otherwise. -/
theorem keys_insert (members : Members) (key : String) (value : Json) :
    (members.insert key value).keys
      = if key ∈ members.keys then members.keys else members.keys ++ [key] := by
  -- The key is looked for from the front, where it is replaced or passed over.
  induction members with
  | nil => rfl
  | cons first rest ih =>
    by_cases same : first.1 = key
    · simp [insert, keys, same]
    · have other : key ≠ first.1 := fun equal => same equal.symm
      simp only [keys] at ih
      by_cases listed : key ∈ rest.map Prod.fst <;> simp_all [insert, keys]

/-- What an insertion leaves under keys was there before or has been inserted. -/
theorem mem_insert {member : String × Json} (kept : member ∈ members.insert key value) :
    member ∈ members ∨ member = (key, value) := by
  -- By induction on the members, up to the one that is replaced.
  induction members with
  | nil => exact .inr (by simpa [insert] using kept)
  | cons first rest ih =>
    by_cases same : first.1 = key
    · simp only [insert, same, beq_self_eq_true, if_true, List.mem_cons] at kept
      rcases kept with rfl | later
      · exact .inr rfl
      · exact .inl (List.mem_cons_of_mem _ later)
    · simp only [insert, beq_iff_eq, same, if_false, List.mem_cons] at kept
      rcases kept with rfl | later
      · exact .inl (by simp)
      · exact (ih later).imp (List.mem_cons_of_mem _) id

/-- Collected pairs have each key once, and each of them is one of the pairs. -/
theorem collect_spec (pairs : List (String × Json)) :
    (Members.collect pairs).keys.Nodup ∧ ∀ member ∈ Members.collect pairs, member ∈ pairs := by
  -- The fold starts from no members and keeps them distinct with each insertion.
  have general : ∀ (pairs : List (String × Json)) (before : Members), before.keys.Nodup →
      (pairs.foldl (fun members pair => members.insert pair.1 pair.2) before).keys.Nodup ∧
      ∀ member ∈ pairs.foldl (fun members pair => members.insert pair.1 pair.2) before,
        member ∈ before ∨ member ∈ pairs := by
    intro pairs
    induction pairs with
    | nil => exact fun before distinct => ⟨distinct, fun member listed => .inl listed⟩
    | cons pair rest ih =>
      intro before distinct
      have grown : (before.insert pair.1 pair.2).keys.Nodup := by
        rw [keys_insert]
        split
        · exact distinct
        · rename_i fresh
          simpa [List.nodup_append] using ⟨distinct, fun key listed same => fresh (same ▸ listed)⟩
      obtain ⟨nodup, listed⟩ := ih _ grown
      refine ⟨nodup, fun member kept => ?_⟩
      rcases listed member kept with inserted | later
      · exact (mem_insert inserted).imp id (by rintro rfl; simp)
      · exact .inr (List.mem_cons_of_mem _ later)
  obtain ⟨nodup, listed⟩ := general pairs [] List.nodup_nil
  exact ⟨nodup, fun member kept => (listed member kept).resolve_left List.not_mem_nil⟩

/-- A new key goes to the end. -/
theorem insert_of_notMem (fresh : key ∉ members.keys) :
    members.insert key value = members ++ [(key, value)] := by
  -- By induction on the members, none of which is replaced.
  induction members with
  | nil => rfl
  | cons first rest ih =>
    obtain ⟨apart, behind⟩ := not_or.mp (mt List.mem_cons.mpr fresh)
    have other : first.1 ≠ key := fun same => apart same.symm
    simp [insert, other, ih behind]

/-- Pairs with different keys are collected as they are. -/
theorem collect_of_nodup {pairs : List (String × Json)} (distinct : (pairs.map Prod.fst).Nodup) :
    Members.collect pairs = pairs := by
  -- The members so far have none of the keys that follow.
  have general : ∀ (pairs : List (String × Json)) (before : Members),
      ((before ++ pairs).map Prod.fst).Nodup →
      pairs.foldl (fun members pair => members.insert pair.1 pair.2) before = before ++ pairs := by
    intro pairs
    induction pairs with
    | nil => simp
    | cons pair rest ih =>
      intro before distinct
      have fresh : pair.1 ∉ before.keys := by
        rw [List.map_append, List.nodup_append] at distinct
        exact fun listed => distinct.2.2 _ listed _ (by simp) rfl
      rw [List.foldl_cons, insert_of_notMem fresh, ih _ (by simpa using distinct)]
      simp
  exact general pairs [] distinct

end Members

namespace Draft

/-- The drafts of items, one by one. -/
theorem ofItems_eq (items : List Json) : ofItems items = items.map ofJson := by
  -- The walk over the items changes each of them alone.
  induction items with
  | nil => rfl
  | cons item rest ih => rw [ofItems, ih, List.map_cons]

/-- A well-keyed document is spelled by its own draft. -/
theorem toJson_ofJson {json : Json} (wellKeyed : json.isWellKeyed = true) :
    (ofJson json).toJson = .ok json := by
  -- By induction on the document; the members stay as they are, for each key is new.
  induction json using Json.induct with
  | array items ih =>
    have known := Json.isWellKeyed_array.mp wellKeyed
    have each : itemsToJson (ofItems items) = .ok items := by
      clear wellKeyed
      induction items with
      | nil => rfl
      | cons item rest behind =>
        obtain ⟨own, others⟩ := List.forall_mem_cons.mp known
        have first := ih item (by simp) own
        have more := behind (fun other listed => ih other (by simp [listed])) others
        rw [ofItems, itemsToJson, first, more]
        rfl
    rw [ofJson, toJson, each]
    rfl
  | object members ih =>
    obtain ⟨distinct, known⟩ := Json.isWellKeyed_object.mp wellKeyed
    have each : membersToJson (ofMembers members) = .ok members := by
      clear distinct wellKeyed
      induction members with
      | nil => rfl
      | cons member rest behind =>
        obtain ⟨key, value⟩ := member
        obtain ⟨own, others⟩ := List.forall_mem_cons.mp known
        have first := ih (key, value) (by simp) own
        have more := behind (fun other listed => ih other (by simp [listed])) others
        rw [ofMembers, membersToJson, first, more]
        rfl
    rw [ofJson, toJson, each]
    -- The members are collected as they are, since no key repeats.
    show Except.ok (Json.object (Members.collect members)) = _
    rw [Members.collect_of_nodup distinct]
  | _ => rfl

mutual

/-- A draft that spells a document spells one that is well keyed. -/
theorem isWellKeyed_toJson : ∀ (draft : Draft) {json : Json},
    draft.toJson = .ok json → json.isWellKeyed = true
  -- By recursion on the draft, together with those for items and for members.
  | .null, _, spelled => by cases spelled; rfl
  | .bool _, _, spelled => by cases spelled; rfl
  | .integer _, _, spelled => by cases spelled; rfl
  | .float _, _, spelled => by cases spelled; rfl
  | .string _, _, spelled => by cases spelled; rfl
  | .array items unclosed, _, spelled => by
    obtain ⟨documents, each, behind⟩ := Result.bind_ok spelled
    obtain ⟨-, -, made⟩ := Result.bind_ok behind
    cases made
    exact Json.isWellKeyed_array.mpr (isWellKeyed_itemsToJson items each)
  | .object members unclosed, _, spelled => by
    obtain ⟨pairs, each, behind⟩ := Result.bind_ok spelled
    obtain ⟨-, -, made⟩ := Result.bind_ok behind
    cases made
    -- Repeated keys are united when the pairs are collected.
    obtain ⟨distinct, kept⟩ := Members.collect_spec pairs
    exact Json.isWellKeyed_object.mpr ⟨distinct, fun member listed =>
      isWellKeyed_membersToJson members each member (kept member listed)⟩

/-- The documents of all items are well keyed. -/
theorem isWellKeyed_itemsToJson : ∀ (items : List Draft) {documents : List Json},
    itemsToJson items = .ok documents → ∀ document ∈ documents, document.isWellKeyed = true
  -- An item that spells no document would leave the list without any.
  | [], _, spelled => by cases spelled; simp
  | item :: rest, _, spelled => by
    obtain ⟨first, own, behind⟩ := Result.bind_ok spelled
    obtain ⟨more, others, made⟩ := Result.bind_ok behind
    cases made
    exact List.forall_mem_cons.mpr
      ⟨isWellKeyed_toJson item own, isWellKeyed_itemsToJson rest others⟩

/-- The documents of all members are well keyed. -/
theorem isWellKeyed_membersToJson : ∀ (members : List (String × Draft))
    {pairs : List (String × Json)}, membersToJson members = .ok pairs →
    ∀ pair ∈ pairs, pair.2.isWellKeyed = true
  -- By recursion on the members; which keys they have is no matter here.
  | [], _, spelled => by cases spelled; simp
  | (key, value) :: rest, _, spelled => by
    obtain ⟨first, own, behind⟩ := Result.bind_ok spelled
    obtain ⟨more, others, made⟩ := Result.bind_ok behind
    cases made
    exact List.forall_mem_cons.mpr
      ⟨isWellKeyed_toJson value own, isWellKeyed_membersToJson rest others⟩

end

end Draft

/-- Every document that is read is well keyed. -/
theorem Json.isWellKeyed_read {text : String} {json : Json} (read : Json.read text = .ok json) :
    json.isWellKeyed = true := by
  -- A fault of the text is reported as an error, so that there has been none.
  have spelled : (Sheet.read text).toJson = .ok json := by
    cases sheet : (Sheet.read text).toJson with
    | error fault => simp [Json.read, sheet, Except.mapError] at read
    | ok document => simpa [Json.read, sheet, Except.mapError] using read
  obtain ⟨value, root, behind⟩ := Result.bind_ok spelled
  obtain ⟨-, -, made⟩ := Result.bind_ok behind
  cases made
  exact Draft.isWellKeyed_toJson _ root

end RowFilter
