import RowFilter.Proofs.Json.Keys
import RowFilter.Proofs.Json.Written

/-! Documents without floats are read back from the text in which they are written. -/

namespace RowFilter

namespace Json

mutual

/-- How many levels of arrays and objects a document has. -/
def depth : Json → Nat
  -- A literal opens no level, and a level is opened by each bracket.
  | .array items => 1 + itemsDepth items
  | .object members => 1 + membersDepth members
  | _ => 0

/-- The most levels that an item has. -/
def itemsDepth : List Json → Nat
  -- The reader goes down into one item at a time, so that the deepest one counts.
  | [] => 0
  | item :: rest => max item.depth (itemsDepth rest)

/-- The most levels that the value of a member has. -/
def membersDepth : List (String × Json) → Nat
  -- The keys are strings, which open no level.
  | [] => 0
  | (_, value) :: rest => max value.depth (membersDepth rest)

end

/-- Whether no number of a document is a float. -/
inductive IsFloatless : Json → Prop where
  | null : IsFloatless .null
  | bool (value : Bool) : IsFloatless (.bool value)
  | integer (value : WideInt) : IsFloatless (.integer value)
  | string (value : String) : IsFloatless (.string value)
  | array {items : List Json} (each : ∀ item ∈ items, IsFloatless item) : IsFloatless (.array items)
  | object {members : Members} (each : ∀ member ∈ members, IsFloatless member.2) :
    IsFloatless (.object members)

/-- Items are written one behind the other, each but the first one behind a comma. -/
theorem itemChars_cons (item : Json) (rest : List Json) :
    itemChars (item :: rest) = item.chars ++ rest.flatMap fun other => ',' :: other.chars := by
  -- The writer looks ahead for another item, and so the first one stays in front of the induction.
  induction rest generalizing item with
  | nil => simp [itemChars]
  | cons next rest ih => rw [itemChars, ih, List.flatMap_cons, List.cons_append]; simp

/-- A member is written as its key, a colon and its value. -/
def pairChars (member : String × Json) : List Char :=
  -- No blank is written around the colon.
  Quoted.write member.1 ++ ':' :: member.2.chars

/-- A member is longer than its value by its key and the colon at least. -/
theorem length_chars_le_pairChars (member : String × Json) :
    member.2.chars.length < (pairChars member).length := by
  -- The colon alone makes up for the difference.
  simp only [pairChars, List.length_append, List.length_cons]
  omega

/-- Members are written one behind the other, each but the first one behind a comma. -/
theorem memberChars_cons (member : String × Json) (rest : Members) :
    memberChars (member :: rest)
      = pairChars member ++ rest.flatMap fun other => ',' :: pairChars other := by
  -- The writer looks ahead for another member, and so the first one stays in front of the
  -- induction.
  induction rest generalizing member with
  | nil => simp [memberChars, pairChars]
  | cons next rest ih =>
    obtain ⟨key, value⟩ := member
    rw [memberChars.eq_3 key value _ (List.cons_ne_nil _ _), ih, List.flatMap_cons,
      List.cons_append]
    simp [pairChars]

/-- A whole number begins with a sign or a digit. -/
theorem integerChars_first (value : Int) :
    ∃ c others, integerChars value = c :: others ∧ (c = '-' ∨ c.isDigit = true) := by
  -- By its sign; without one the first digit stands in front, of which there always is one.
  unfold integerChars
  split
  · exact ⟨_, _, rfl, .inl rfl⟩
  · obtain ⟨c, others, written⟩ := List.exists_cons_of_ne_nil
      (@Nat.toDigits_ne_nil value.natAbs 10)
    exact ⟨c, others, written, .inr (@Nat.isDigit_of_mem_toDigits 10 value.natAbs c (by decide)
      (by decide) (by simp [written]))⟩

/-- A document without floats begins with a character that is no blank and closes nothing. -/
theorem IsFloatless.chars_first {document : Json} (floatless : document.IsFloatless) :
    ∃ c others, document.chars = c :: others ∧ Draft.isGap c = false ∧ c ≠ ']' := by
  -- The writer puts a letter, a digit, a sign, a quote or a bracket that opens in front.
  cases floatless with
  | null => exact ⟨_, _, rfl, by decide⟩
  | bool value => cases value <;> exact ⟨_, _, rfl, by decide⟩
  | integer value =>
    obtain ⟨c, others, written, first⟩ := integerChars_first value.value
    refine ⟨c, others, written, ?_⟩
    rcases first with rfl | digit
    · decide
    · -- None of the four blanks is a digit.
      refine ⟨?_, by rintro rfl; cases digit⟩
      cases gap : Draft.isGap c with
      | false => rfl
      | true =>
        simp only [Draft.isGap, Bool.or_eq_true, decide_eq_true_eq] at gap
        rcases gap with ((rfl | rfl) | rfl) | rfl <;> cases digit
  | string value => exact ⟨_, _, rfl, by decide⟩
  | array each => exact ⟨_, _, rfl, by decide⟩
  | object each => exact ⟨_, _, rfl, by decide⟩

end Json

namespace Draft

/-- Nothing is skipped in front of a character that is no blank. -/
theorem skipGap_cons {c : Char} (plain : isGap c = false) (rest : List Char) :
    skipGap (c :: rest) = c :: rest := List.dropWhile_cons_of_neg (by simp [plain])

/-- Whether a document is read back where it may open so many levels, and with three steps for each
character that is written. -/
def ReadsBack (document : Json) : Prop := ∀ fuel room rest, 3 * document.chars.length ≤ fuel →
  document.depth < room → Closes rest →
  readValue fuel room (document.chars ++ rest) = (ofJson document, some rest)

variable {fuel room : Nat} {rest behind : List Char}

/-- Behind a part of an array or an object there is another part behind a comma, or the bracket. -/
theorem closes_parts {α : Type} (parts : List α) (write : α → List Char) {bracket : Char}
    (closing : bracket = ']' ∨ bracket = '}') (rest : List Char) :
    Closes ((parts.flatMap fun part => ',' :: write part) ++ bracket :: rest) := by
  -- Either no part is left, or the next one follows behind a comma.
  cases parts with
  | nil => simpa [Closes] using Or.inr closing
  | cons part others => simp [Closes]

/-- An item is read back, and the array goes on behind it. -/
theorem readItem_written {item : Json} (back : ReadsBack item) (taken : List Draft)
    (enough : 3 * item.chars.length ≤ fuel) (shallow : item.depth < room)
    (closes : Closes behind) :
    readItem (fuel + 1) room taken (item.chars ++ behind)
      = readItems fuel room false (ofJson item :: taken) behind := by
  -- The item is read by itself, for what stands behind it closes it.
  rw [readItem, back fuel room behind enough shallow closes]

/-- Items behind commas are read back up to the bracket of their array. -/
theorem readItems_written {items : List Json} (back : ∀ item ∈ items, ReadsBack item)
    (floatless : ∀ item ∈ items, item.IsFloatless) (shallow : Json.itemsDepth items < room)
    (taken : List Draft)
    (enough : 3 * ((items.flatMap fun item => ',' :: item.chars).length + 1) ≤ fuel) :
    readItems fuel room false taken ((items.flatMap fun item => ',' :: item.chars) ++ ']' :: rest)
      = (.array (taken.reverse ++ ofItems items) none, some rest) := by
  -- By induction on the items, whatever was taken before them.
  induction items generalizing fuel taken with
  | nil =>
    -- Only the bracket is left, and it takes one step.
    obtain ⟨less, rfl⟩ := Nat.exists_eq_add_of_le' (by omega : 1 ≤ fuel)
    rw [List.flatMap_nil, List.nil_append, readItems, skipGap_cons (by decide)]
    simp [ofItems]
  | cons item others ih =>
    obtain ⟨less, rfl⟩ := Nat.exists_eq_add_of_le' (by omega : 2 ≤ fuel)
    obtain ⟨own, more⟩ := List.forall_mem_cons.mp back
    obtain ⟨plain, plains⟩ := List.forall_mem_cons.mp floatless
    obtain ⟨level, levels⟩ := Nat.max_lt.mp shallow
    simp only [List.flatMap_cons, List.length_append, List.length_cons] at enough
    -- The item stands behind its comma, and the others are read after it. Of the three steps for
    -- each character, those for the comma pay for the calls of the two readers.
    obtain ⟨c, letters, written, gap, opened⟩ := plain.chars_first
    have length : 3 * item.chars.length ≤ less := by omega
    have first := readItem_written own taken length level
      (closes_parts others Json.chars (.inl rfl) rest)
    have further := @ih less more plains levels (ofJson item :: taken) (by omega)
    rw [List.flatMap_cons, List.cons_append, List.cons_append, List.append_assoc, readItems,
      skipGap_cons (by decide)]
    rw [written, List.cons_append] at first ⊢
    simp only [skipGap_cons gap, opened, first, further]
    simp [ofItems]

/-- A member is read back, and the object goes on behind it. -/
theorem readMember_written {member : String × Json} (back : ReadsBack member.2)
    (taken : List (String × Draft)) (enough : 3 * member.2.chars.length ≤ fuel)
    (shallow : member.2.depth < room) (closes : Closes behind) :
    readMember (fuel + 1) room taken (Json.pairChars member ++ behind)
      = readMembers fuel room false ((member.1, ofJson member.2) :: taken) behind := by
  -- The key is read up to its quote, and the colon stands right behind it.
  have key := @Quoted.read_escaped (':' :: (member.2.chars ++ behind)) member.1
  rw [Json.pairChars, Quoted.write, List.cons_append, List.cons_append, List.append_assoc,
    List.append_assoc, List.singleton_append, List.cons_append, readMember]
  simp only [key, skipGap_cons (by decide : isGap ':' = false),
    back fuel room behind enough shallow closes]

/-- Members behind commas are read back up to the bracket of their object. -/
theorem readMembers_written {members : Members} (back : ∀ member ∈ members, ReadsBack member.2)
    (shallow : Json.membersDepth members < room) (taken : List (String × Draft))
    (enough :
      3 * ((members.flatMap fun member => ',' :: Json.pairChars member).length + 1) ≤ fuel) :
    readMembers fuel room false taken
        ((members.flatMap fun member => ',' :: Json.pairChars member) ++ '}' :: rest)
      = (.object (taken.reverse ++ ofMembers members) none, some rest) := by
  -- By induction on the members, whatever was taken before them.
  induction members generalizing fuel taken with
  | nil =>
    obtain ⟨less, rfl⟩ := Nat.exists_eq_add_of_le' (by omega : 1 ≤ fuel)
    rw [List.flatMap_nil, List.nil_append, readMembers, skipGap_cons (by decide)]
    simp [ofMembers]
  | cons member others ih =>
    obtain ⟨less, rfl⟩ := Nat.exists_eq_add_of_le' (by omega : 2 ≤ fuel)
    obtain ⟨own, more⟩ := List.forall_mem_cons.mp back
    obtain ⟨level, levels⟩ := Nat.max_lt.mp shallow
    simp only [List.flatMap_cons, List.length_append, List.length_cons] at enough
    -- The key stands right behind the comma.
    have key : Json.pairChars member
        = '"' :: (Json.pairChars member).tail := rfl
    have within := Json.length_chars_le_pairChars member
    have length : 3 * member.2.chars.length ≤ less := by omega
    have first := readMember_written own taken length level
      (closes_parts others Json.pairChars (.inr rfl) rest)
    have further := @ih less more levels ((member.1, ofJson member.2) :: taken) (by omega)
    rw [List.flatMap_cons, List.cons_append, List.cons_append, List.append_assoc, readMembers,
      skipGap_cons (by decide)]
    rw [key, List.cons_append] at first ⊢
    simp only [skipGap_cons (by decide : isGap '"' = false), first, further]
    simp [ofMembers]

/-- Behind an opening quote a string is read. -/
theorem readValue_quote (fuel room : Nat) (rest : List Char) :
    readValue (fuel + 1) room ('"' :: rest) = ofToken .string (Quoted.read rest) := by
  -- A quote is no gap, and it is not the first character of anything else.
  rw [readValue, skipGap_cons (by decide)]
  rfl

/-- Behind a sign or a digit a number is read. -/
theorem readValue_number {c : Char} (first : c = '-' ∨ c.isDigit = true) (fuel room : Nat)
    (rest : List Char) :
    readValue (fuel + 1) room (c :: rest) = ofToken id (Numeral.read (c :: rest)) := by
  -- No other value begins with such a character, and it is no blank.
  have other : ∀ d : Char, d ≠ '-' → d.isDigit = false → c ≠ d := by
    rintro d sign digit rfl
    rcases first with same | own
    · exact sign same
    · rw [digit] at own
      cases own
  have gap : isGap c = false := by
    simp [isGap, other ' ' (by decide) (by decide), other '\n' (by decide) (by decide),
      other '\t' (by decide) (by decide), other '\r' (by decide) (by decide)]
  rw [readValue, skipGap_cons gap]
  simp only [other 'n' (by decide) (by decide), other 't' (by decide) (by decide),
    other 'f' (by decide) (by decide), other '"' (by decide) (by decide), if_false]
  exact if_pos (by simpa using first)

/-- Behind an opening bracket the items of an array are read, as long as there is a level left. -/
theorem readValue_bracket (opens : 1 < room) (fuel : Nat) (rest : List Char) :
    readValue (fuel + 1) room ('[' :: rest) = readItems fuel (room - 1) true [] rest := by
  -- A bracket is no gap, and the level that it opens is taken off.
  rw [readValue, skipGap_cons (by decide)]
  exact if_neg (Nat.not_le.mpr opens)

/-- Behind an opening brace the members of an object are read, as long as there is a level left. -/
theorem readValue_brace (opens : 1 < room) (fuel : Nat) (rest : List Char) :
    readValue (fuel + 1) room ('{' :: rest) = readMembers fuel (room - 1) true [] rest := by
  -- A brace is no gap, and the level that it opens is taken off.
  rw [readValue, skipGap_cons (by decide)]
  exact if_neg (Nat.not_le.mpr opens)

/-- A whole number is read back. -/
theorem readsBack_integer (value : WideInt) : ReadsBack (.integer value) := by
  -- The fuel is enough for one step, and a number takes no more.
  intro fuel room rest enough shallow closes
  -- What closes the value also ends the number.
  have read := Numeral.read_integerChars value closes
  obtain ⟨c, letters, written, first⟩ := Json.integerChars_first value.value
  rw [Json.chars, written, List.length_cons] at enough
  obtain ⟨less, rfl⟩ := Nat.exists_eq_add_of_le' (by omega : 1 ≤ fuel)
  rw [Json.chars]
  rw [written, List.cons_append] at read ⊢
  rw [readValue_number first, read]
  rfl

/-- A string is read back. -/
theorem readsBack_string (value : String) : ReadsBack (.string value) := by
  -- The fuel is enough for one step, and a string takes no more.
  intro fuel room rest enough shallow closes
  -- A string ends with its own quote, whatever stands behind it.
  rw [Json.chars, Quoted.write, List.length_cons] at enough
  obtain ⟨less, rfl⟩ := Nat.exists_eq_add_of_le' (by omega : 1 ≤ fuel)
  rw [Json.chars, Quoted.write, List.cons_append, List.append_assoc, List.singleton_append,
    readValue_quote, Quoted.read_escaped]
  rfl

/-- An array is read back if its items are, each with one level less. -/
theorem readsBack_array {items : List Json} (back : ∀ item ∈ items, ReadsBack item)
    (floatless : ∀ item ∈ items, item.IsFloatless) : ReadsBack (.array items) := by
  -- The fuel is at least the bracket's share, and the rest of it is for the items.
  intro fuel room rest enough shallow closes
  rw [Json.depth] at shallow
  rw [Json.chars, List.length_cons, List.length_append, List.length_singleton] at enough
  obtain ⟨less, rfl⟩ := Nat.exists_eq_add_of_le' (by omega : 3 ≤ fuel)
  rw [Json.chars, List.cons_append, List.append_assoc, List.singleton_append,
    readValue_bracket (by omega), readItems]
  cases items with
  | nil =>
    -- The bracket that closes stands right behind the one that opens.
    rw [Json.itemChars, List.nil_append, skipGap_cons (by decide)]
    rfl
  | cons item others =>
    -- The first item stands right behind the bracket, and the others behind commas.
    rw [Json.itemChars_cons] at enough ⊢
    rw [List.length_append] at enough
    obtain ⟨own, more⟩ := List.forall_mem_cons.mp back
    obtain ⟨plain, plains⟩ := List.forall_mem_cons.mp floatless
    obtain ⟨level, levels⟩ := Nat.max_lt.mp (by rw [Json.itemsDepth] at shallow; omega :
      max item.depth (Json.itemsDepth others) < room - 1)
    obtain ⟨c, letters, written, gap, opened⟩ := plain.chars_first
    have filled : 1 ≤ item.chars.length := by simp [written]
    have length : 3 * item.chars.length ≤ less := by omega
    have first := readItem_written own [] length level
      (closes_parts others Json.chars (.inl rfl) rest)
    have further := @readItems_written less (room - 1) rest others more plains levels [ofJson item]
      (by omega : 3 * ((others.flatMap fun item => ',' :: item.chars).length + 1) ≤ less)
    rw [List.append_assoc]
    rw [written, List.cons_append] at first ⊢
    simp only [skipGap_cons gap, opened, if_false, if_true, first, further]
    rfl

/-- An object is read back if its values are, each with one level less. -/
theorem readsBack_object {members : Members} (back : ∀ member ∈ members, ReadsBack member.2) :
    ReadsBack (.object members) := by
  -- The fuel is at least the brace's share, and the rest of it is for the members.
  intro fuel room rest enough shallow closes
  rw [Json.depth] at shallow
  rw [Json.chars, List.length_cons, List.length_append, List.length_singleton] at enough
  obtain ⟨less, rfl⟩ := Nat.exists_eq_add_of_le' (by omega : 3 ≤ fuel)
  rw [Json.chars, List.cons_append, List.append_assoc, List.singleton_append,
    readValue_brace (by omega), readMembers]
  cases members with
  | nil =>
    rw [Json.memberChars, List.nil_append, skipGap_cons (by decide)]
    rfl
  | cons member others =>
    -- The first key stands right behind the brace, and the other members behind commas.
    rw [Json.memberChars_cons] at enough ⊢
    rw [List.length_append] at enough
    obtain ⟨own, more⟩ := List.forall_mem_cons.mp back
    obtain ⟨level, levels⟩ := Nat.max_lt.mp (by rw [Json.membersDepth] at shallow; omega :
      max member.2.depth (Json.membersDepth others) < room - 1)
    have key : Json.pairChars member = '"' :: (Json.pairChars member).tail := rfl
    have within := Json.length_chars_le_pairChars member
    have length : 3 * member.2.chars.length ≤ less := by omega
    have first := readMember_written own [] length level
      (closes_parts others Json.pairChars (.inr rfl) rest)
    have further := @readMembers_written less (room - 1) rest others more levels
      [(member.1, ofJson member.2)] (by omega :
        3 * ((others.flatMap fun member => ',' :: Json.pairChars member).length + 1) ≤ less)
    rw [List.append_assoc]
    rw [key, List.cons_append] at first ⊢
    simp only [skipGap_cons (by decide : isGap '"' = false), if_true, first, further]
    rfl

/-- A document without floats is read back, with its parts. -/
theorem readsBack {document : Json} (floatless : document.IsFloatless) : ReadsBack document := by
  -- The parts of an array or an object are read back by the hypothesis of the induction.
  induction document using Json.induct with
  | null =>
    intro fuel room rest enough shallow closes
    obtain ⟨less, rfl⟩ := Nat.exists_eq_add_of_le' (Nat.le_trans (by decide) enough : 1 ≤ fuel)
    rw [readValue]
    rfl
  | bool value =>
    intro fuel room rest enough shallow closes
    cases value
    all_goals
      obtain ⟨less, rfl⟩ := Nat.exists_eq_add_of_le' (Nat.le_trans (by decide) enough : 1 ≤ fuel)
      rw [readValue]
      rfl
  | integer value => exact readsBack_integer value
  | float value => cases floatless
  | string value => exact readsBack_string value
  | array items ih =>
    cases floatless with
    | array each =>
      exact readsBack_array (fun item listed => ih item listed (each item listed)) each
  | object members ih =>
    cases floatless with
    | object each =>
      exact readsBack_object fun member listed => ih member listed (each member listed)

end Draft

/-- A document without floats is read back from the text in which it is written, if its objects have
each key once and it has no more levels than may be opened. -/
theorem Json.read_write {document : Json} (wellKeyed : document.isWellKeyed = true)
    (floatless : document.IsFloatless) (shallow : document.depth < Draft.maxDepth) :
    Json.read document.write = .ok document := by
  -- The text is read as the draft of the document, and this spells it.
  have whole : Sheet.read document.write = ⟨Draft.ofJson document, none⟩ := by
    -- Nothing stands behind the document, so that no text is left over.
    have back := Draft.readsBack floatless (3 * document.chars.length + 3) Draft.maxDepth []
      (Nat.le_add_right ..) shallow (by simp [Draft.Closes])
    rw [List.append_nil] at back
    simp only [Sheet.read, write, String.toList_ofList, back]
    rfl
  -- With each key once, no member takes the place of another one.
  rw [Json.read, whole, Sheet.toJson, Draft.toJson_ofJson wellKeyed]
  rfl

end RowFilter
