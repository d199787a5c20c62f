import RowFilter.Json.Reader
import RowFilter.Json.Writer

/-! Strings and whole numbers as they are written are read back, whatever closes them. -/

namespace RowFilter

namespace Quoted

variable {rest : List Char}

/-- Each of the sixteen digits is read as its own value. -/
theorem hexDigit?_hexChar {value : Nat} (small : value < 16) :
    hexDigit? (hexChar value) = some value := by
  -- Sixteen values, each with a character in one of the ranges that the reader asks for.
  rcases value with _ | _ | _ | _ | _ | _ | _ | _ | _ | _ | _ | _ | _ | _ | _ | _ | value
  all_goals first | rfl | omega

/-- The hexadecimal escape of a control character is read as that character. -/
theorem readUnicode_control {c : Char} (control : c.toNat < 0x20) :
    readUnicode ('0' :: '0' :: hexChar (c.toNat / 16) :: hexChar (c.toNat % 16) :: rest)
      = .ok (c, rest) := by
  -- The text is long enough for the reader to look for the four digits.
  have long := Text.length_le_byteLength
    ('0' :: '0' :: hexChar (c.toNat / 16) :: hexChar (c.toNat % 16) :: rest)
  simp only [List.length_cons] at long
  -- Two zeros and the two halves of the code make up the code.
  have word : hexWord? '0' '0' (hexChar (c.toNat / 16)) (hexChar (c.toNat % 16))
      = some c.toNat := by
    have zero : hexDigit? '0' = some 0 := by decide
    have whole : c.toNat / 16 * 16 + c.toNat % 16 = c.toNat := by omega
    simp [hexWord?, zero, hexDigit?_hexChar (by omega : c.toNat / 16 < 16),
      hexDigit?_hexChar (by omega : c.toNat % 16 < 16), whole]
  have read : readHex ('0' :: '0' :: hexChar (c.toNat / 16) :: hexChar (c.toNat % 16) :: rest)
      = .ok (c.toNat, rest) := by
    rw [readHex, if_neg (by omega)]
    simp only [word]
  -- A control character is no half of a surrogate pair.
  have trailing : isTrailing c.toNat = false := by
    simp only [isTrailing, Bool.and_eq_false_iff, decide_eq_false_iff_not]
    omega
  have leading : isLeading c.toNat = false := by
    simp only [isLeading, Bool.and_eq_false_iff, decide_eq_false_iff_not]
    omega
  rw [readUnicode, read]
  simp [Bind.bind, Except.bind, trailing, leading, Char.ofNat_toNat, pure, Except.pure]

/-- A character is written as itself if it may stand in a string, and otherwise as an escape that is
read as the character. -/
theorem escape_cases (c : Char) :
    (escape c = [c] ∧ c ≠ '"' ∧ c ≠ '\\' ∧ ¬ c.toNat < 0x20) ∨
    ∃ letters, escape c = '\\' :: letters ∧
      ∀ rest, readEscape (letters ++ rest) = .ok (c, rest) := by
  -- The characters with a letter of their own are asked for first, then the other controls.
  unfold escape
  iterate 7
    split
    · subst c
      exact .inr ⟨_, rfl, fun rest => rfl⟩
  split
  · rename_i control
    exact .inr ⟨_, rfl, fun rest => readUnicode_control control⟩
  · exact .inl ⟨rfl, by assumption, by assumption, by assumption⟩

/-- A written string has at least as many characters as the string. -/
theorem length_le_escaped (text : List Char) : text.length ≤ (text.flatMap escape).length := by
  -- Escaping goes character by character, and makes none of them disappear.
  induction text with
  | nil => exact Nat.le_refl 0
  | cons c others ih =>
    -- No character is written as nothing.
    have filled : 1 ≤ (escape c).length := by
      rcases escape_cases c with ⟨plain, -⟩ | ⟨letters, written, -⟩
      · simp [plain]
      · rw [written, List.length_cons]
        omega
    rw [List.flatMap_cons, List.length_append, List.length_cons]
    omega

/-- A written string is read back up to its closing quote, character by character. -/
theorem readFrom_escaped (text : List Char) {fuel : Nat} (enough : text.length < fuel)
    (taken : List Char) :
    readFrom fuel taken (text.flatMap escape ++ '"' :: rest)
      = .ok (String.ofList (taken.reverse ++ text), rest) := by
  -- By induction on the characters, each of which takes one round of the reader.
  induction text generalizing fuel taken with
  | nil =>
    -- The closing quote takes one round more than there are characters.
    obtain ⟨less, rfl⟩ := Nat.exists_eq_succ_of_ne_zero (Nat.ne_of_gt enough)
    simp [readFrom]
  | cons c others ih =>
    rw [List.length_cons] at enough
    obtain ⟨less, rfl⟩ := Nat.exists_eq_succ_of_ne_zero (Nat.ne_of_gt (Nat.zero_lt_of_lt enough))
    have behind := ih (Nat.lt_of_succ_lt_succ enough) (c :: taken)
    rw [List.reverse_cons, List.append_assoc, List.singleton_append] at behind
    rw [List.flatMap_cons, List.append_assoc]
    rcases escape_cases c with ⟨written, quote, backslash, control⟩ | ⟨letters, written, read⟩
    · -- The character stands for itself, and is none of those that the reader treats otherwise.
      rw [written, List.singleton_append, readFrom, if_neg quote, if_neg backslash,
        if_neg control, behind]
    · -- The backslash hands over to the reader of escapes.
      rw [written, List.cons_append, readFrom, if_neg (by decide), if_pos rfl, read]
      exact behind

/-- A written string is read back, whatever follows its closing quote. -/
theorem read_escaped (text : String) :
    read (text.toList.flatMap escape ++ '"' :: rest) = .ok (text, rest) := by
  -- The reader has one round for each character that is written.
  have long := length_le_escaped text.toList
  rw [read, readFrom_escaped text.toList (by rw [List.length_append]; omega)]
  simp

end Quoted

/-- Whether a text may stand behind a value: nothing does, or a comma, or the bracket of an array or
an object. -/
def Draft.Closes (rest : List Char) : Prop := ∀ c ∈ rest.head?, c = ',' ∨ c = ']' ∨ c = '}'

namespace Numeral

variable {digits rest : List Char} {number : Nat}

/-- Reading more digits makes a number no smaller. -/
theorem le_ofDigitChars (digits : List Char) (before : Nat) :
    before ≤ Nat.ofDigitChars 10 digits before := by
  -- By induction on the digits, each of which moves those before it to the left.
  induction digits generalizing before with
  | nil => exact Nat.le_refl before
  | cons c others ih =>
    have behind := ih (10 * before + (c.toNat - '0'.toNat))
    rw [Nat.ofDigitChars_cons]
    omega

/-- No digit follows where a value is closed. -/
theorem isDigit_of_closes (closes : Draft.Closes rest) : ∀ c ∈ rest.head?, c.isDigit = false := by
  -- What closes a value is a comma or a bracket.
  intro c first
  rcases closes c first with rfl | rfl | rfl <;> decide

/-- Digits are taken as a whole if their number fits and no digit follows them. -/
theorem takeDigits_digits (digit : ∀ c ∈ digits, c.isDigit = true) (before count : Nat)
    (fits : Nat.ofDigitChars 10 digits before < 0x10000000000000000)
    (ends : ∀ c ∈ rest.head?, c.isDigit = false) :
    takeDigits before count (digits ++ rest)
      = (Nat.ofDigitChars 10 digits before, count + digits.length, rest) := by
  -- By induction on the digits, with those that have been taken before.
  induction digits generalizing before count with
  | nil =>
    cases rest with
    | nil => rfl
    | cons c others => simp [takeDigits, ends c rfl]
  | cons c others ih =>
    obtain ⟨own, behind⟩ := List.forall_mem_cons.mp digit
    -- What is taken so far is no more than the whole number.
    rw [Nat.ofDigitChars_cons, Nat.mul_comm] at fits
    have small := le_ofDigitChars others (before * 10 + Numeral.digit c)
    have below : before * 10 + Numeral.digit c < 0x10000000000000000 :=
      Nat.lt_of_le_of_lt small fits
    rw [List.cons_append, takeDigits]
    simp only [own, below, decide_true, Bool.and_true, if_true]
    rw [show before * 10 + Numeral.digit c = before * 10 + (c.toNat - '0'.toNat) from rfl,
      ih behind _ _ fits, Nat.ofDigitChars_cons, Nat.mul_comm 10, List.length_cons,
      Nat.add_right_comm, Nat.add_assoc]

/-- A number other than zero is written without a zero in front. -/
theorem toDigits_first (positive : 0 < number) :
    ∃ c others, Nat.toDigits 10 number = c :: others ∧ c ≠ '0' := by
  -- The first digit is that of the number without its last digit.
  induction number using Nat.strongRecOn with
  | ind number ih =>
    rw [Nat.toDigits_eq_if (by decide)]
    split
    · refine ⟨_, [], rfl, ?_⟩
      rw [ne_eq, Nat.digitChar_eq_zero]
      omega
    · obtain ⟨c, others, written, filled⟩ := ih (number / 10) (by omega) (by omega)
      exact ⟨c, others ++ [(number % 10).digitChar], by rw [written, List.cons_append], filled⟩

/-- The digits of a number are read as the number. -/
theorem readUnsigned_toDigits {positive : Bool} (fits : number < 0x10000000000000000)
    (closes : Draft.Closes rest) :
    readUnsigned positive (Nat.toDigits 10 number ++ rest) = .ok (whole positive number, rest) := by
  -- The digits end where the value is closed, and all of them are taken.
  have ends := isDigit_of_closes closes
  have taken := @takeDigits_digits (Nat.toDigits 10 number) rest
    (fun c => Nat.isDigit_of_mem_toDigits (by decide) (by decide)) 0 0
    (by rwa [Nat.ofDigitChars_ten_toDigits]) ends
  rw [Nat.ofDigitChars_ten_toDigits] at taken
  -- A zero stands in front of other digits only if it is the whole number.
  obtain ⟨c, others, written, digit, single⟩ : ∃ c others,
      Nat.toDigits 10 number = c :: others ∧ c.isDigit = true ∧ (c = '0' → others = []) := by
    rcases Nat.eq_zero_or_pos number with rfl | positive
    · exact ⟨'0', [], Nat.toDigits_zero 10, by decide, fun _ => rfl⟩
    · obtain ⟨c, others, written, filled⟩ := toDigits_first positive
      refine ⟨c, others, written, ?_, fun zero => absurd zero filled⟩
      exact Nat.isDigit_of_mem_toDigits (b := 10) (n := number) (by decide) (by decide)
        (by simp [written])
  -- So the reader does not take it for a number with a zero too many.
  have alone : ¬ (c = '0' ∧ startsWithDigit (others ++ rest) = true) := by
    rintro ⟨zero, more⟩
    rw [single zero, List.nil_append] at more
    cases rest with
    | nil => cases more
    | cons next _ =>
      rw [startsWithDigit, ends next rfl] at more
      cases more
  -- All digits were taken, none has to be dropped for its size.
  have skipped : skipDigits 0 rest = (0, rest) := by
    cases rest with
    | nil => rfl
    | cons next _ => simp [skipDigits, ends next rfl]
  rw [written, List.cons_append] at taken ⊢
  simp only [readUnsigned, digit, Bool.not_true, Bool.false_eq_true, if_false, if_neg alone, taken,
    skipped]
  -- What closes a value is neither a point nor the letter of an exponent.
  split
  · exact absurd (closes _ rfl) (by decide)
  · exact absurd (closes _ rfl) (by decide)
  · exact absurd (closes _ rfl) (by decide)
  · rfl

/-- A wide integer is the one with its value. -/
theorem ofInt?_value (value : WideInt) : WideInt.ofInt? value.value = some value :=
  -- The bounds are those that the integer carries.
  dif_pos value.fits

/-- A whole number of 64 bits is the number of its digits and its sign. -/
theorem whole_natAbs (value : WideInt) :
    whole (decide (0 ≤ value.value)) value.value.natAbs = .integer value := by
  -- By the sign, which is put before the digits again.
  have known := ofInt?_value value
  unfold whole
  by_cases negative : value.value < 0
  · have own : -((value.value.natAbs : Nat) : Int) = value.value := by omega
    -- A negative zero is the one numeral that is a float for its sign.
    have filled : ¬ (false = false ∧ value.value.natAbs = 0) := fun zero => by omega
    rw [decide_eq_false (Int.not_le.mpr negative), if_neg Bool.false_ne_true, if_neg filled, own,
      known]
  · have own : ((value.value.natAbs : Nat) : Int) = value.value := by omega
    have signless : ¬ (true = false ∧ value.value.natAbs = 0) := fun zero => Bool.noConfusion zero.1
    rw [decide_eq_true (Int.not_lt.mp negative), if_pos rfl, if_neg signless, own, known]

/-- A whole number of 64 bits is read back. -/
theorem read_integerChars (value : WideInt) (closes : Draft.Closes rest) :
    read (Json.integerChars value.value ++ rest) = .ok (.integer value, rest) := by
  -- By the sign, which is written only in front of a negative number.
  have bounds := value.fits
  -- Either bound of 64 bits leaves a number of digits that fits.
  have unsigned (positive : Bool) := @readUnsigned_toDigits rest value.value.natAbs positive
    (by omega) closes
  have made := whole_natAbs value
  rw [Json.integerChars]
  by_cases negative : value.value < 0
  · -- The sign is taken off, and what is left are the digits.
    rw [if_pos negative, List.cons_append, read, unsigned]
    rw [decide_eq_false (Int.not_le.mpr negative)] at made
    rw [made]
  · rw [if_neg negative]
    rw [decide_eq_true (Int.not_lt.mp negative)] at made
    -- The first character is a digit, and so no sign.
    have plain : read (Nat.toDigits 10 value.value.natAbs ++ rest)
        = readUnsigned true (Nat.toDigits 10 value.value.natAbs ++ rest) := by
      unfold read
      split
      · rename_i signed
        have digit := @Nat.isDigit_of_mem_toDigits 10 value.value.natAbs '-' (by decide) (by decide)
        cases written : Nat.toDigits 10 value.value.natAbs with
        | nil => exact absurd written Nat.toDigits_ne_nil
        | cons c others =>
          rw [written, List.cons_append, List.cons.injEq] at signed
          rw [written, signed.1] at digit
          exact absurd (digit (.head _)) (by decide)
      · rfl
    rw [plain, unsigned, made]

end Numeral

end RowFilter
