import RowFilter.Proofs.Json.Token

/-! A document takes at least as many characters of text as its literals and its marks. -/

namespace RowFilter

namespace Json

mutual

/-- The least number of characters that a document takes: one for a literal, and otherwise the marks
around and between its parts with the parts. -/
def span : Json → Nat
  -- The closing mark is paid for by the last part, which has no comma behind it.
  | .array items => 1 + itemsSpan items
  | .object members => 1 + membersSpan members
  | _ => 1

/-- The least number of characters that items take, each with the mark behind it. -/
def itemsSpan : List Json → Nat
  -- The comma behind the last item stands for the bracket.
  | [] => 0
  | item :: rest => item.span + 1 + itemsSpan rest

/-- The least number of characters that members take, each with the quotes of its key, the colon and
the mark behind it. -/
def membersSpan : List (String × Json) → Nat
  -- A key may be empty, so that only its quotes are sure.
  | [] => 0
  | (_, value) :: rest => value.span + 4 + membersSpan rest

end

/-- Every document takes at least one character. -/
theorem span_pos (json : Json) : 0 < json.span := by
  -- The mark that opens an array or an object is its first character.
  cases json <;> simp [span, Nat.add_comm 1]

/-- A key with its value takes no more room in an object than beside it. -/
theorem membersSpan_insert (members : Members) (key : String) (value : Json) :
    membersSpan (members.insert key value) ≤ membersSpan members + (value.span + 4) := by
  -- By induction on the members, up to the one with the same key.
  induction members with
  | nil => simp [Members.insert, membersSpan]
  | cons member rest ih =>
    rw [Members.insert]
    -- The value of a known key takes the place of the old one.
    split <;> simp only [membersSpan] <;> omega

/-- Uniting repeated keys takes no more room. -/
theorem membersSpan_collect (pairs : Members) :
    membersSpan (Members.collect pairs) ≤ membersSpan pairs := by
  -- The members that were collected before take their own room, and each pair adds its own at most.
  have each : ∀ (pairs members : Members),
      membersSpan (pairs.foldl (fun members pair => Members.insert members pair.1 pair.2) members)
        ≤ membersSpan members + membersSpan pairs := by
    intro pairs
    induction pairs with
    | nil => exact fun members => Nat.le_refl _
    | cons pair rest ih =>
      intro members
      have first := membersSpan_insert members pair.1 pair.2
      have others := ih (Members.insert members pair.1 pair.2)
      simp only [List.foldl_cons, membersSpan]
      omega
  simpa [Members.collect, membersSpan] using each pairs []

end Json

namespace Draft

mutual

/-- The least number of characters that a draft takes as far as it was read. -/
def span : Draft → Nat
  -- What is missing behind a fault is not counted.
  | .array items _ => 1 + itemsSpan items
  | .object members _ => 1 + membersSpan members
  | _ => 1

/-- The least number of characters that the drafts of items take. -/
def itemsSpan : List Draft → Nat
  -- It is counted as for documents, item by item.
  | [] => 0
  | item :: rest => item.span + 1 + itemsSpan rest

/-- The least number of characters that the drafts of members take. -/
def membersSpan : List (String × Draft) → Nat
  -- Repeated keys count each time, as they stand in the text.
  | [] => 0
  | (_, value) :: rest => value.span + 4 + membersSpan rest

end

/-- The items of a list take the same characters in any order. -/
theorem itemsSpan_reverse (items : List Draft) : itemsSpan items.reverse = itemsSpan items := by
  -- What the items take is a sum, and the order of its terms does not matter.
  have sum : ∀ items, itemsSpan items = (items.map fun item => item.span + 1).sum := by
    intro items
    induction items with
    | nil => rfl
    | cons item rest ih => rw [itemsSpan, ih, List.map_cons, List.sum_cons]
  rw [sum, sum, List.map_reverse, List.sum_reverse]

/-- The members of an object take the same characters in any order. -/
theorem membersSpan_reverse (members : List (String × Draft)) :
    membersSpan members.reverse = membersSpan members := by
  -- What the members take is a sum, and the order of its terms does not matter.
  have sum : ∀ members, membersSpan members = (members.map fun member => member.2.span + 4).sum := by
    intro members
    induction members with
    | nil => rfl
    | cons member rest ih => rw [membersSpan, ih, List.map_cons, List.sum_cons]
  rw [sum, sum, List.map_reverse, List.sum_reverse]

mutual

/-- The document that a draft spells takes no more characters than the draft. -/
theorem span_toJson : ∀ (draft : Draft) {json : Json}, draft.toJson = .ok json →
    json.span ≤ draft.span
  -- By recursion on the draft, together with those for items and for members.
  | .array items unclosed, json, spelled => by
    obtain ⟨documents, each, behind⟩ := Result.bind_ok spelled
    obtain ⟨-, -, made⟩ := Result.bind_ok behind
    cases made
    have inner := itemsSpan_toJson items each
    simp only [Json.span, span]
    omega
  | .object members unclosed, json, spelled => by
    obtain ⟨pairs, each, behind⟩ := Result.bind_ok spelled
    obtain ⟨-, -, made⟩ := Result.bind_ok behind
    cases made
    have inner := membersSpan_toJson members each
    -- Repeated keys are united only now, which saves room.
    have united := Json.membersSpan_collect pairs
    simp only [Json.span, span]
    omega
  | .null, _, spelled | .bool _, _, spelled | .integer _, _, spelled | .float _, _, spelled
  | .string _, _, spelled => by
    cases spelled
    exact Nat.le_refl _
  | .broken _, _, spelled => by cases spelled

/-- The documents that items spell take no more characters than the items. -/
theorem itemsSpan_toJson : ∀ (items : List Draft) {documents : List Json},
    itemsToJson items = .ok documents → Json.itemsSpan documents ≤ itemsSpan items
  -- By recursion on the items, each of which saves whatever its document does.
  | [], _, spelled => by
    cases spelled
    exact Nat.le_refl _
  | item :: rest, _, spelled => by
    obtain ⟨first, own, behind⟩ := Result.bind_ok spelled
    obtain ⟨others, more, made⟩ := Result.bind_ok behind
    cases made
    have head := span_toJson item own
    have tail := itemsSpan_toJson rest more
    simp only [Json.itemsSpan, itemsSpan]
    omega

/-- The documents that members spell take no more characters than the members. -/
theorem membersSpan_toJson : ∀ (members : List (String × Draft)) {pairs : List (String × Json)},
    membersToJson members = .ok pairs → Json.membersSpan pairs ≤ membersSpan members
  -- By recursion on the members, which are not united yet.
  | [], _, spelled => by
    cases spelled
    exact Nat.le_refl _
  | (key, value) :: rest, _, spelled => by
    obtain ⟨first, own, behind⟩ := Result.bind_ok spelled
    obtain ⟨others, more, made⟩ := Result.bind_ok behind
    cases made
    have head := span_toJson value own
    have tail := membersSpan_toJson rest more
    simp only [Json.membersSpan, membersSpan]
    omega

end

/-- Whether a draft spells no document. -/
def Fails (draft : Draft) : Prop := ∀ json, draft.toJson ≠ .ok json

/-- A draft that a fault stands for is no document. -/
theorem fails_broken (fault : Fault) : (Draft.broken fault).Fails := nofun

/-- Items are spelled only if each of them is. -/
theorem exists_toJson_item {items : List Draft} {documents : List Json} {item : Draft}
    (spelled : itemsToJson items = .ok documents) (listed : item ∈ items) :
    ∃ json, item.toJson = .ok json := by
  -- By induction on the items up to the one in question, as the first failure is that of all.
  induction items generalizing documents with
  | nil => cases listed
  | cons first rest ih =>
    obtain ⟨document, own, behind⟩ := Result.bind_ok spelled
    obtain ⟨others, more, -⟩ := Result.bind_ok behind
    rcases List.mem_cons.mp listed with rfl | later
    · exact ⟨document, own⟩
    · exact ih more later

/-- Members are spelled only if the value of each of them is. -/
theorem exists_toJson_member {members : List (String × Draft)} {pairs : List (String × Json)}
    {member : String × Draft} (spelled : membersToJson members = .ok pairs)
    (listed : member ∈ members) : ∃ json, member.2.toJson = .ok json := by
  -- The first value that spells no document would be the end of all.
  induction members generalizing pairs with
  | nil => cases listed
  | cons first rest ih =>
    obtain ⟨document, own, behind⟩ := Result.bind_ok spelled
    obtain ⟨others, more, -⟩ := Result.bind_ok behind
    rcases List.mem_cons.mp listed with rfl | later
    · exact ⟨document, own⟩
    · exact ih more later

/-- An array in which the text goes wrong spells no document. -/
theorem fails_array {items : List Draft} {unclosed : Option Fault}
    (wrong : unclosed.isSome ∨ ∃ item ∈ items, item.Fails) : (Draft.array items unclosed).Fails := by
  -- The items are spelled before the fault is looked at, and both can go wrong.
  intro json spelled
  obtain ⟨documents, each, behind⟩ := Result.bind_ok spelled
  rcases wrong with fault | ⟨item, listed, fails⟩
  · -- The fault is raised behind the items.
    obtain ⟨fault, rfl⟩ := Option.isSome_iff_exists.mp fault
    cases behind
  · obtain ⟨document, own⟩ := exists_toJson_item each listed
    exact fails document own

/-- An object in which the text goes wrong spells no document. -/
theorem fails_object {members : List (String × Draft)} {unclosed : Option Fault}
    (wrong : unclosed.isSome ∨ ∃ member ∈ members, member.2.Fails) :
    (Draft.object members unclosed).Fails := by
  -- The members are spelled before the fault is looked at, and both can go wrong.
  intro json spelled
  obtain ⟨pairs, each, behind⟩ := Result.bind_ok spelled
  rcases wrong with fault | ⟨member, listed, fails⟩
  · -- The fault is raised behind the members.
    obtain ⟨fault, rfl⟩ := Option.isSome_iff_exists.mp fault
    cases behind
  · obtain ⟨document, own⟩ := exists_toJson_member each listed
    exact fails document own

/-- Whether a reading accounts for a number of characters: what was read and what is left take no
more, and a reading that leaves nothing to go on with spells no document. -/
def Reading.Covers (budget : Nat) : Reading → Prop
  -- A reading that goes on has a text left, which still has to be accounted for.
  | (draft, some rest) => draft.span + rest.length ≤ budget
  | (draft, none) => draft.Fails

namespace Reading

variable {budget more : Nat} {reading : Reading}

/-- A reading accounts for more characters as well. -/
theorem Covers.mono (covers : reading.Covers budget) (enough : budget ≤ more) :
    reading.Covers more := by
  -- Where nothing is left, the number does not matter.
  obtain ⟨draft, _ | rest⟩ := reading
  · exact covers
  · exact Nat.le_trans covers enough

/-- Where reading stops there is no document. -/
theorem covers_stop (fault : Fault) : (stop fault).Covers budget := fails_broken fault

/-- An array that a fault leaves open is no document. -/
theorem covers_openArray (items : List Draft) (fault : Fault) :
    Covers budget (.array items (some fault), none) :=
  -- The fault is enough, however many items were read before.
  fails_array (.inl rfl)

/-- An object that a fault leaves open is no document. -/
theorem covers_openObject (members : List (String × Draft)) (fault : Fault) :
    Covers budget (.object members (some fault), none) :=
  -- The fault is enough, however many members were read before.
  fails_object (.inl rfl)

/-- A token accounts for its characters. -/
theorem covers_ofToken {α : Type} {make : α → Draft} {token : Except Fault (α × List Char)}
    (each : ∀ value rest, token = .ok (value, rest) → (make value).span + rest.length ≤ budget) :
    (ofToken make token).Covers budget := by
  -- A token that is not read stops the reading, and then nothing is left.
  cases token with
  | error fault => exact covers_stop fault
  | ok pair => exact each pair.1 pair.2 rfl

/-- A fixed word accounts for its characters. -/
theorem covers_readWord {value : Draft} (literal : value.span = 1) (letters text : List Char) :
    (readWord value letters text).Covers (text.length + 1) := by
  -- By induction on the letters, each of which is one character of the text.
  induction letters generalizing text with
  | nil => simp [readWord, Covers, literal, Nat.add_comm]
  | cons expected letters ih =>
    cases text with
    | nil => exact covers_stop _
    | cons c rest =>
      rw [readWord]
      split
      · exact (ih rest).mono (Nat.le_succ _)
      · exact covers_stop _

end Reading

/-- A number takes one character at least. -/
theorem IsNumber.span_eq {draft : Draft} (number : draft.IsNumber) : draft.span = 1 := by
  -- Both forms of numbers are literals.
  cases draft <;> first | rfl | cases number

/-- Whether all readings with some fuel account for their text: what a list has read before is paid
for, and an open list keeps one character for the mark behind its next part. -/
structure Covering (fuel : Nat) : Prop where
  value : ∀ room text, (readValue fuel room text).Covers text.length
  items : ∀ room first items text, (readItems fuel room first items text).Covers
    (itemsSpan items + first.toNat + text.length)
  item : ∀ room items text,
    (readItem fuel room items text).Covers (itemsSpan items + 1 + text.length)
  members : ∀ room first members text, (readMembers fuel room first members text).Covers
    (membersSpan members + first.toNat + text.length)
  member : ∀ room members text,
    (readMember fuel room members text).Covers (membersSpan members + 1 + text.length)

namespace Covering

open Reading

/-- Without fuel nothing is read. -/
theorem zero : Covering 0 where
  -- Every reader stops at once, which leaves a draft that spells no document.
  value _ _ := by rw [readValue]; exact covers_stop _
  items _ _ _ _ := by rw [readItems]; exact covers_openArray _ _
  item _ _ _ := by rw [readItem]; exact covers_openArray _ _
  members _ _ _ _ := by rw [readMembers]; exact covers_openObject _ _
  member _ _ _ := by rw [readMember]; exact covers_openObject _ _

variable {fuel : Nat} (covering : Covering fuel) (room : Nat) (text : List Char)

include covering

/-- A value accounts for its first character and what it goes on with. -/
theorem readValue_succ : (readValue (fuel + 1) room text).Covers text.length := by
  -- Blanks in front only leave less text, so that the value may use it all.
  have gap := length_skipGap text
  rw [readValue]
  split
  · exact covers_stop _
  rename_i c rest found
  rw [found, List.length_cons] at gap
  -- The first character tells what is read: a fixed word, a string, a number, an array or an object.
  split
  · exact (covers_readWord rfl _ rest).mono gap
  split
  · exact (covers_readWord rfl _ rest).mono gap
  split
  · exact (covers_readWord rfl _ rest).mono gap
  split
  · -- The opening quote is the character that the span of a string counts.
    refine covers_ofToken fun content others read => ?_
    have fewer := Quoted.length_read read
    simp only [span]
    omega
  split
  · refine covers_ofToken fun draft others read => ?_
    obtain ⟨number, fewer⟩ := Numeral.read_ok read
    rw [id, number.span_eq]
    simp only [List.length_cons] at fewer
    omega
  split
  · split
    · exact covers_stop _
    · -- The opening bracket pays for the mark that the first item has no comma for.
      refine (covering.items (room - 1) true [] rest).mono ?_
      simp only [itemsSpan, Bool.toNat_true]
      omega
  split
  · split
    · exact covers_stop _
    · refine (covering.members (room - 1) true [] rest).mono ?_
      simp only [membersSpan, Bool.toNat_true]
      omega
  · exact covers_stop _

/-- The items of an array end with its bracket, or go on behind a comma unless it is the first. -/
theorem readItems_succ (first : Bool) (items : List Draft) :
    (readItems (fuel + 1) room first items text).Covers
      (itemsSpan items + first.toNat + text.length) := by
  -- Every step takes at least one character, which pays for what it opens or closes.
  have gap := length_skipGap text
  rw [readItems]
  split
  · exact covers_openArray _ _
  rename_i c rest found
  rw [found, List.length_cons] at gap
  split
  · -- The bracket that ends the array is the character that its span has in front.
    simp only [Covers, span, itemsSpan_reverse]
    omega
  split
  · -- The first item stands right behind the bracket.
    rename_i opened
    refine (covering.item room items (c :: rest)).mono ?_
    simp only [opened, Bool.toNat_true, List.length_cons]
    omega
  split
  · have behind := length_skipGap rest
    split
    · exact covers_openArray _ _
    rename_i next others more
    rw [more] at behind
    split
    · exact covers_openArray _ _
    · -- The comma pays for the mark of the item behind it.
      refine (covering.item room items (next :: others)).mono ?_
      omega
  · exact covers_openArray _ _

/-- An item is paid for by its own characters, and the array goes on behind it. -/
theorem readItem_succ (items : List Draft) :
    (readItem (fuel + 1) room items text).Covers (itemsSpan items + 1 + text.length) := by
  -- The item is covered, and what it leaves is for the rest of the array.
  have own := covering.value room text
  rw [readItem]
  split
  · rename_i item rest found
    rw [found] at own
    refine (covering.items room false (item :: items) rest).mono ?_
    simp only [Covers, itemsSpan, Bool.toNat_false] at own ⊢
    omega
  · -- Where the item breaks off, the array does too.
    rename_i item found
    rw [found] at own
    exact fails_array (.inr ⟨item, by simp, own⟩)

/-- The members of an object end with its brace, or go on behind a comma unless it is the first. -/
theorem readMembers_succ (first : Bool) (members : List (String × Draft)) :
    (readMembers (fuel + 1) room first members text).Covers
      (membersSpan members + first.toNat + text.length) := by
  -- As for the items of an array, every step takes at least one character.
  have gap := length_skipGap text
  rw [readMembers]
  split
  · exact covers_openObject _ _
  rename_i c rest found
  rw [found, List.length_cons] at gap
  split
  · simp only [Covers, span, membersSpan_reverse]
    omega
  split
  · -- The first member stands right behind the brace.
    rename_i opened
    refine (covering.member room members (c :: rest)).mono ?_
    simp only [opened, Bool.toNat_true, List.length_cons]
    omega
  split
  · have behind := length_skipGap rest
    split
    · exact covers_openObject _ _
    rename_i next others more
    rw [more] at behind
    split
    · exact covers_openObject _ _
    · -- The comma pays for the mark of the member behind it.
      refine (covering.member room members (next :: others)).mono ?_
      omega
  · exact covers_openObject _ _

/-- A member is paid for by two quotes, its colon and its value, and the object goes on behind it. -/
theorem readMember_succ (members : List (String × Draft)) :
    (readMember (fuel + 1) room members text).Covers (membersSpan members + 1 + text.length) := by
  -- What stands behind the key decides whether there is a member at all.
  unfold readMember
  dsimp only
  split
  · rename_i rest
    split
    · exact covers_openObject _ _
    rename_i key others read
    have quoted := Quoted.length_read read
    have gap := length_skipGap others
    split
    · -- The opening quote, the closing one and the colon pay for three of the four marks of a member.
      rename_i behind found
      rw [found, List.length_cons] at gap
      have own := covering.value room behind
      split
      · rename_i value after spelled
        rw [spelled] at own
        refine (covering.members room false ((key, value) :: members) after).mono ?_
        simp only [Covers, membersSpan, Bool.toNat_false, List.length_cons] at own ⊢
        omega
      · rename_i value spelled
        rw [spelled] at own
        exact fails_object (.inr ⟨(key, value), by simp, own⟩)
    -- Without a colon the value of the member is missing.
    · exact fails_object (.inr ⟨_, List.mem_reverse.mpr (.head _), fails_broken _⟩)
    · exact fails_object (.inr ⟨_, List.mem_reverse.mpr (.head _), fails_broken _⟩)
  · exact covers_openObject _ _

end Covering

/-- All readings account for their text. -/
theorem covering (fuel : Nat) : Covering fuel := by
  -- By induction on the fuel, each unit of which is one step of one reader.
  induction fuel with
  | zero => exact .zero
  | succ fuel ih =>
    exact ⟨ih.readValue_succ, fun room first items text => ih.readItems_succ room text first items,
      fun room items text => ih.readItem_succ room text items,
      fun room first members text => ih.readMembers_succ room text first members,
      fun room members text => ih.readMember_succ room text members⟩

end Draft

/-- A text has no more characters than bytes. -/
theorem length_toList_le (text : String) : text.toList.length ≤ text.utf8ByteSize := by
  -- Every character has one byte at least.
  have each : ∀ characters : List Char,
      characters.length ≤ (String.ofList characters).utf8ByteSize := by
    intro characters
    induction characters with
    | nil => simp
    | cons c rest ih =>
      have filled := c.utf8Size_pos
      rw [String.ofList_cons, String.utf8ByteSize_append, String.utf8ByteSize_singleton,
        List.length_cons]
      omega
  simpa using each text.toList

/-- A document takes no more characters than the text it is read from has bytes. -/
theorem Json.span_le_of_read {text : String} {json : Json} (read : Json.read text = .ok json) :
    json.span ≤ text.utf8ByteSize := by
  -- There are no more characters than bytes, and the reader is given fuel for all of them.
  refine Nat.le_trans ?_ (length_toList_le text)
  have spelled := Result.mapError_ok read
  obtain ⟨document, root, behind⟩ := Result.bind_ok spelled
  obtain ⟨-, -, made⟩ := Result.bind_ok behind
  cases made
  have own := (Draft.covering (3 * text.toList.length + 3)).value Draft.maxDepth text.toList
  unfold Sheet.read at root
  dsimp only at root
  split at root
  · -- A reading that leaves nothing to go on with has met a fault.
    rename_i draft found
    rw [found] at own
    exact absurd root (own json)
  · rename_i draft rest found
    rw [found] at own
    have taken : json.span ≤ draft.span := by
      split at root <;> exact Draft.span_toJson draft root
    simp only [Draft.Reading.Covers] at own
    omega

end RowFilter
