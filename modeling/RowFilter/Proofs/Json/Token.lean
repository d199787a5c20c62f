import RowFilter.Json.Reader
import RowFilter.Proofs.Result

/-! A token that is read leaves less text than there was, and blanks in front of it no more. -/

namespace RowFilter

open Result

namespace Quoted

variable {text rest : List Char}

/-- The digits of a hexadecimal escape are four characters. -/
theorem length_readHex {word : Nat} (read : readHex text = .ok (word, rest)) :
    rest.length + 4 = text.length := by
  -- With fewer than four characters there is nothing to read.
  unfold readHex at read
  split at read
  · cases read
  · split at read
    · split at read <;> cases read
      rfl
    · cases read

/-- The second half of a surrogate pair takes characters. -/
theorem length_readTrailing {leading : Nat} {pair : Char}
    (read : readTrailing leading text = .ok (pair, rest)) : rest.length < text.length := by
  -- By what follows the first half: a backslash and a letter for the escape, or something else.
  unfold readTrailing at read
  split at read
  · cases read
  · cases read
  · -- Only another hexadecimal escape can hold the second half.
    obtain ⟨⟨word, behind⟩, digits, joined⟩ := bind_ok read
    have four := length_readHex digits
    simp only at joined
    split at joined
    · simp only [pure, Except.pure, Except.ok.injEq, Prod.mk.injEq] at joined
      simp only [← joined.2, List.length_cons]
      omega
    · cases joined
  · cases read
  · cases read

/-- A hexadecimal escape takes characters, with or without a second half. -/
theorem length_readUnicode {unicode : Char} (read : readUnicode text = .ok (unicode, rest)) :
    rest.length < text.length := by
  -- The four digits come first, and what they stand for decides whether there is more.
  obtain ⟨⟨word, behind⟩, digits, joined⟩ := bind_ok read
  have four := length_readHex digits
  simp only at joined
  split at joined
  · cases joined
  split at joined
  · -- The first half of a pair is followed by the second one.
    have more := length_readTrailing joined
    omega
  · cases joined
    omega

/-- An escape takes characters. -/
theorem length_readEscape {escaped : Char} (read : readEscape text = .ok (escaped, rest)) :
    rest.length < text.length := by
  -- The character behind the backslash says how many more there are.
  unfold readEscape at read
  split at read
  -- All escapes but the hexadecimal one are a single character.
  case h_10 => exact Nat.lt_succ_of_lt (length_readUnicode read)
  all_goals
    cases read
    try simp

/-- The rest of a string takes at least its closing quote. -/
theorem length_readFrom {fuel : Nat} {taken : List Char} {content : String}
    (read : readFrom fuel taken text = .ok (content, rest)) : rest.length < text.length := by
  -- Each round takes a character or an escape, and the last one takes the quote.
  induction fuel generalizing taken text with
  | zero => cases read
  | succ fuel ih =>
    cases text with
    | nil => cases read
    | cons c behind =>
      rw [readFrom] at read
      split at read
      · cases read
        simp
      split at read
      · obtain ⟨⟨escaped, more⟩, own, others⟩ := bind_ok read
        have first := length_readEscape own
        have later := ih others
        simp only [List.length_cons]
        omega
      split at read
      · cases read
      · have later := ih read
        simp only [List.length_cons]
        omega

/-- A string takes at least its closing quote. -/
theorem length_read {content : String} (read : read text = .ok (content, rest)) :
    rest.length < text.length := length_readFrom read

end Quoted

/-- Whether a draft is a number. -/
def Draft.IsNumber : Draft → Prop
  -- The sign and the size of a number do not matter here.
  | .integer _ | .float _ => True
  | _ => False

namespace Numeral

/-- Digits that are taken into a significand leave no more text than there was. -/
theorem length_takeDigits (significand count : Nat) (text : List Char) :
    (takeDigits significand count text).2.2.length ≤ text.length := by
  -- By induction on the text, up to the first character that is not taken.
  induction text generalizing significand count with
  | nil => simp [takeDigits]
  | cons c rest ih =>
    simp only [takeDigits]
    split
    · exact Nat.le_succ_of_le (ih _ _)
    · exact Nat.le_refl _

/-- Digits that are passed over leave no more text than there was. -/
theorem length_skipDigits (count : Nat) (text : List Char) :
    (skipDigits count text).2.length ≤ text.length := by
  -- By induction on the text, up to the first character that is no digit.
  induction text generalizing count with
  | nil => simp [skipDigits]
  | cons c rest ih =>
    simp only [skipDigits]
    split
    · exact Nat.le_succ_of_le (ih _)
    · exact Nat.le_refl _

variable {positive : Bool} {significand : Nat} {exponent : Int} {text rest : List Char}
  {value : Float} {draft : Draft}

/-- The first digit fits a significand and is taken. -/
theorem length_takeDigits_first {c : Char} (isDigit : c.isDigit = true) (rest : List Char) :
    (takeDigits 0 0 (c :: rest)).2.2.length ≤ rest.length := by
  -- What is limited is the significand, and one digit is below the limit.
  have small : digit c < 0x10000000000000000 := by
    have below := c.val.toNat_lt
    unfold digit Char.toNat
    omega
  simp only [takeDigits, isDigit, Nat.zero_mul, Nat.zero_add, small, decide_true, Bool.and_true,
    if_true]
  exact length_takeDigits _ _ rest

/-- The digits of an exponent leave no more text than there was. -/
theorem length_takeExponent (value : Nat) (text : List Char) :
    (takeExponent value text).2.length ≤ text.length := by
  -- By induction on the text; the digits may end because the exponent is too large.
  induction text generalizing value with
  | nil => simp [takeExponent]
  | cons c rest ih =>
    simp only [takeExponent]
    split
    · split
      · exact Nat.le_succ_of_le (ih _)
      · exact Nat.le_succ _
    · exact Nat.le_refl _

/-- A float takes no characters when it is put together. -/
theorem rest_finish (read : finish positive significand exponent text = .ok (value, rest)) :
    rest = text := by
  -- The number may be too large, and otherwise the text is handed on as it is.
  unfold finish at read
  split at read <;> cases read
  rfl

/-- An exponent leaves no more text than there was. -/
theorem length_readExponent (read : readExponent positive significand exponent text
    = .ok (value, rest)) : rest.length ≤ text.length := by
  -- There is a digit at least, and those that do not fit any more are passed over.
  unfold readExponent at read
  dsimp only at read
  split at read
  · cases read
  · rename_i c behind digits
    -- A sign in front of the digits is passed over, if there is one.
    have signless : (c :: behind).length ≤ text.length := by
      rw [← digits]
      split <;> simp
    rw [List.length_cons] at signless
    split at read
    · cases read
    have taken := length_takeExponent (digit c) behind
    split at read
    · rename_i found
      rw [found] at taken
      cases rest_finish read
      simp only at taken
      omega
    · rename_i others found
      rw [found] at taken
      have skipped := length_skipDigits 0 others
      split_ifs at read
      cases read
      simp only at taken
      omega

/-- What follows the digits of a float leaves no more text than there was. -/
theorem length_readTail (read : readTail positive significand exponent text = .ok (value, rest)) :
    rest.length ≤ text.length := by
  -- An exponent may follow in either case, and otherwise the text is left alone.
  unfold readTail at read
  split at read
  · exact Nat.le_succ_of_le (length_readExponent read)
  · exact Nat.le_succ_of_le (length_readExponent read)
  · exact Nat.le_of_eq (congrArg List.length (rest_finish read))

/-- A fraction leaves no more text than there was. -/
theorem length_readFraction (read : readFraction positive significand exponent text
    = .ok (value, rest)) : rest.length ≤ text.length := by
  -- There is a digit behind the point at least.
  unfold readFraction at read
  split at read
  · cases read
  · split at read
    · cases read
    · -- Digits that the significand has no room for are passed over.
      rename_i c behind _
      have taken := length_takeDigits significand 0 (c :: behind)
      generalize takeDigits significand 0 (c :: behind) = parts at read taken
      obtain ⟨significand, count, others⟩ := parts
      have skipped := length_skipDigits 0 others
      have tail := length_readTail read
      simp only at taken
      omega

/-- A whole number is a number, whether it fits 64 bits or not. -/
theorem isNumber_whole (positive : Bool) (significand : Nat) :
    (whole positive significand).IsNumber := by
  -- The sign and the size decide the form, and each of them is a number.
  unfold whole
  split
  · exact trivial
  · split <;> exact trivial

/-- A number without its sign takes at least a digit. -/
theorem readUnsigned_ok (read : readUnsigned positive text = .ok (draft, rest)) :
    draft.IsNumber ∧ rest.length < text.length := by
  -- The first character is a digit, which makes what is left shorter than the text.
  unfold readUnsigned at read
  split at read
  · cases read
  rename_i c behind
  split at read
  · cases read
  rename_i isDigit
  split at read
  · cases read
  have taken := length_takeDigits_first (by simpa using isDigit) behind
  generalize takeDigits 0 0 (c :: behind) = parts at read taken
  obtain ⟨significand, count, others⟩ := parts
  have skipped := length_skipDigits 0 others
  simp only [List.length_cons] at taken read ⊢
  -- What stands behind the digits decides whether the number is a float.
  split at read
  · rename_i fraction pointed
    obtain ⟨⟨value, more⟩, own, joined⟩ := map_ok read
    have tail := length_readFraction own
    rw [pointed, List.length_cons] at skipped
    cases joined
    exact ⟨trivial, by omega⟩
  · rename_i exponent lettered
    obtain ⟨⟨value, more⟩, own, joined⟩ := map_ok read
    have tail := length_readExponent own
    rw [lettered, List.length_cons] at skipped
    cases joined
    exact ⟨trivial, by omega⟩
  · rename_i exponent lettered
    obtain ⟨⟨value, more⟩, own, joined⟩ := map_ok read
    have tail := length_readExponent own
    rw [lettered, List.length_cons] at skipped
    cases joined
    exact ⟨trivial, by omega⟩
  · split at read
    · cases read
      exact ⟨isNumber_whole positive significand, by omega⟩
    · obtain ⟨⟨value, more⟩, own, joined⟩ := map_ok read
      have same := rest_finish own
      cases joined
      rw [same]
      exact ⟨trivial, by omega⟩

/-- A number takes at least a digit. -/
theorem read_ok (read : read text = .ok (draft, rest)) :
    draft.IsNumber ∧ rest.length < text.length := by
  -- The number may have a sign in front.
  unfold Numeral.read at read
  split at read
  · -- The sign is one more character.
    have ⟨number, fewer⟩ := readUnsigned_ok read
    exact ⟨number, Nat.lt_succ_of_lt fewer⟩
  · exact readUnsigned_ok read

end Numeral

/-- Blanks that are passed over leave no more text than there was. -/
theorem Draft.length_skipGap (text : List Char) : (skipGap text).length ≤ text.length :=
  -- What is left is the end of the text behind them.
  (List.dropWhile_suffix _).length_le

end RowFilter
