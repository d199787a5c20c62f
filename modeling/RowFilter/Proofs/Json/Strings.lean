import RowFilter.Proofs.Json.Token

/-! A text that is read as a string is longer than the string, by its quotes at least. -/

namespace RowFilter

/-- The rest of a string has at least as many characters as are read from it, and a quote. -/
theorem Quoted.length_content_readFrom {fuel : Nat} {taken text rest : List Char} {content : String}
    (read : readFrom fuel taken text = .ok (content, rest)) :
    content.toList.length + rest.length < taken.length + text.length := by
  -- Each round takes at least one character of the text for the one that it reads.
  induction fuel generalizing taken text with
  | zero => cases read
  | succ fuel ih =>
    cases text with
    | nil => cases read
    | cons c behind =>
      rw [readFrom] at read
      split at read
      · -- The quote closes the string, and is the character that is not read.
        cases read
        simp only [String.toList_ofList, List.length_reverse, List.length_cons]
        omega
      split at read
      · -- An escape is one character of the string, for two of the text at least.
        obtain ⟨⟨escaped, more⟩, own, others⟩ := Result.bind_ok read
        have first := length_readEscape own
        have later := ih others
        simp only [List.length_cons] at later ⊢
        omega
      split at read
      · cases read
      · -- Any other character stands for itself.
        have later := ih read
        simp only [List.length_cons] at later ⊢
        omega

namespace Draft

/-- Whatever is read behind an opening bracket is an array, with or without a fault. -/
theorem array_of_readItems (fuel : Nat) :
    (∀ room first items text, ∃ taken fault,
      (readItems fuel room first items text).1 = .array taken fault) ∧
    ∀ room items text, ∃ taken fault, (readItem fuel room items text).1 = .array taken fault := by
  -- By induction on the fuel, as the two readers take turns.
  induction fuel with
  | zero =>
    refine ⟨fun room first items text => ?_, fun room items text => ?_⟩
    · exact ⟨_, _, by rw [readItems]⟩
    · exact ⟨_, _, by rw [readItem]⟩
  | succ fuel ih =>
    obtain ⟨list, single⟩ := ih
    refine ⟨fun room first items text => ?_, fun room items text => ?_⟩
    · rw [readItems]
      -- The array ends, or goes on with an item.
      split
      · exact ⟨_, _, rfl⟩
      split
      · exact ⟨_, _, rfl⟩
      split
      · exact single ..
      split
      · split
        · exact ⟨_, _, rfl⟩
        split
        · exact ⟨_, _, rfl⟩
        · exact single ..
      · exact ⟨_, _, rfl⟩
    · rw [readItem]
      split
      · exact list ..
      · exact ⟨_, _, rfl⟩

/-- Whatever is read behind an opening brace is an object, with or without a fault. -/
theorem object_of_readMembers (fuel : Nat) :
    (∀ room first members text, ∃ taken fault,
      (readMembers fuel room first members text).1 = .object taken fault) ∧
    ∀ room members text, ∃ taken fault,
      (readMember fuel room members text).1 = .object taken fault := by
  -- By induction on the fuel, as the two readers take turns.
  induction fuel with
  | zero =>
    refine ⟨fun room first members text => ?_, fun room members text => ?_⟩
    · exact ⟨_, _, by rw [readMembers]⟩
    · exact ⟨_, _, by rw [readMember]⟩
  | succ fuel ih =>
    obtain ⟨list, single⟩ := ih
    refine ⟨fun room first members text => ?_, fun room members text => ?_⟩
    · rw [readMembers]
      split
      · exact ⟨_, _, rfl⟩
      split
      · exact ⟨_, _, rfl⟩
      split
      · exact single ..
      split
      · split
        · exact ⟨_, _, rfl⟩
        split
        · exact ⟨_, _, rfl⟩
        · exact single ..
      · exact ⟨_, _, rfl⟩
    · unfold readMember
      dsimp only
      -- A key without a colon or without a value leaves the object open.
      split
      · split
        · exact ⟨_, _, rfl⟩
        split
        · split
          · exact list ..
          · exact ⟨_, _, rfl⟩
        · exact ⟨_, _, rfl⟩
        · exact ⟨_, _, rfl⟩
      · exact ⟨_, _, rfl⟩

/-- A fixed word is read as itself, or breaks off. -/
theorem readWord_cases (value : Draft) (letters text : List Char) :
    (readWord value letters text).1 = value ∨
      ∃ fault, (readWord value letters text).1 = .broken fault := by
  -- By induction on the letters, the first of which that differs breaks the word off.
  induction letters generalizing text with
  | nil => exact .inl rfl
  | cons expected letters ih =>
    cases text with
    | nil => exact .inr ⟨_, rfl⟩
    | cons c rest =>
      rw [readWord]
      split
      · exact ih rest
      · exact .inr ⟨_, rfl⟩

/-- A fixed word that is no string is not read as one. -/
theorem readWord_ne_string {value : Draft} {content : String} (other : value ≠ .string content)
    (letters text : List Char) (rest : Option (List Char)) :
    readWord value letters text ≠ (.string content, rest) := by
  -- What is read would be the word itself or something broken.
  intro read
  rcases readWord_cases value letters text with own | ⟨fault, own⟩
  · exact other (own.symm.trans (congrArg Prod.fst read))
  · rw [read] at own
    cases own

/-- A text in which a string is read has two more characters than the string and what is left. -/
theorem length_readValue_string {fuel room : Nat} {text : List Char} {left : Option (List Char)}
    {content : String} (read : readValue fuel room text = (.string content, left)) :
    ∃ rest, left = some rest ∧ content.toList.length + rest.length + 2 ≤ text.length := by
  -- Only a step that begins with a quote reads a string.
  cases fuel with
  | zero =>
    rw [readValue] at read
    cases read
  | succ fuel =>
    -- Blanks in front of a value only make the text longer.
    have gap := length_skipGap text
    rw [readValue] at read
    -- Only what stands behind a quote is a string.
    split at read
    · cases read
    rename_i c behind found
    rw [found, List.length_cons] at gap
    split at read
    · refine absurd read (readWord_ne_string ?_ _ _ _)
      simp
    split at read
    · refine absurd read (readWord_ne_string ?_ _ _ _)
      simp
    split at read
    · refine absurd read (readWord_ne_string ?_ _ _ _)
      simp
    split at read
    · cases token : Quoted.read behind with
      | error fault =>
        rw [token] at read
        cases read
      | ok pair =>
        rw [token] at read
        cases read
        -- The quote in front of the string counts too, beside the one that closes it.
        have fewer := Quoted.length_content_readFrom token
        rw [List.length_nil] at fewer
        exact ⟨_, rfl, by omega⟩
    split at read
    · cases token : Numeral.read (c :: behind) with
      | error fault =>
        rw [token] at read
        cases read
      | ok pair =>
        obtain ⟨draft, more⟩ := pair
        rw [token] at read
        cases read
        -- A number is no string.
        exact absurd (Numeral.read_ok token).1 id
    split at read
    · split at read
      · cases read
      · obtain ⟨taken, fault, own⟩ := (array_of_readItems fuel).1 (room - 1) true [] behind
        rw [read] at own
        cases own
    split at read
    · split at read
      · cases read
      · obtain ⟨taken, fault, own⟩ := (object_of_readMembers fuel).1 (room - 1) true [] behind
        rw [read] at own
        cases own
    · cases read

end Draft

/-- A draft that spells a string is that string. -/
theorem Draft.eq_string_of_toJson {draft : Draft} {content : String}
    (spelled : draft.toJson = .ok (.string content)) : draft = .string content := by
  -- An array or an object spells one of its own kind, if it spells any document.
  cases draft with
  | string value =>
    cases spelled
    rfl
  | array items unclosed =>
    obtain ⟨documents, -, behind⟩ := Result.bind_ok spelled
    obtain ⟨-, -, made⟩ := Result.bind_ok behind
    cases made
  | object members unclosed =>
    obtain ⟨pairs, -, behind⟩ := Result.bind_ok spelled
    obtain ⟨-, -, made⟩ := Result.bind_ok behind
    cases made
  | _ => cases spelled

/-- A text is not read as the string of its own characters, since a string has quotes around it. -/
theorem Json.read_ne_string (text : String) : Json.read text ≠ .ok (.string text) := by
  -- The string would have been read from a text that is shorter than it is.
  intro read
  obtain ⟨document, root, behind⟩ := Result.bind_ok (Result.mapError_ok read)
  obtain ⟨-, -, made⟩ := Result.bind_ok behind
  cases made
  -- The root of the sheet is the string, which is shorter than the text by its quotes.
  have own := Draft.eq_string_of_toJson root
  unfold Sheet.read at own
  dsimp only at own
  split at own
  · -- A text that breaks off in its value has no string at its root.
    rename_i draft found
    subst own
    obtain ⟨rest, left, -⟩ := Draft.length_readValue_string found
    cases left
  · -- Whether or not something is left behind the value, the root is the value.
    rename_i draft rest found
    have same : draft = .string text := by
      split at own <;> exact own
    subst same
    obtain ⟨behind, -, longer⟩ := Draft.length_readValue_string found
    omega

end RowFilter
