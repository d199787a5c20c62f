import Mathlib.Data.List.TakeWhile
import RowFilter.Calendar.DateText
import RowFilter.Proofs.Calendar.DayNumber

/-! Dates and times of day as they are written are read back, whatever follows them. -/

namespace RowFilter

variable {width number : Nat} {digits rest : List Char}

/-- A digit is no blank and no sign. -/
theorem Text.isBlank_of_isDigit {c : Char} (digit : c.isDigit = true) : isBlank c = false := by
  -- The digits are a range of code points, which no range of blanks meets.
  simp only [Char.isDigit, Bool.and_eq_true, decide_eq_true_eq] at digit
  have least : 48 ≤ c.toNat := digit.1
  have most : c.toNat ≤ 57 := digit.2
  simp only [isBlank, blankRanges, List.any_cons, List.any_nil, Bool.or_false,
    Bool.or_eq_false_iff, Bool.and_eq_false_iff, decide_eq_false_iff_not]
  omega

/-- Blanks around characters that neither begin nor end with one are dropped. -/
theorem Text.trim_surrounded {before written after : List Char} {first last : Char}
    {behind front : List Char} (leading : ∀ c ∈ before, isBlank c = true)
    (trailing : ∀ c ∈ after, isBlank c = true) (begins : written = first :: behind)
    (ends : written = front ++ [last]) (firstPlain : isBlank first = false)
    (lastPlain : isBlank last = false) : trim (before ++ written ++ after) = written := by
  -- Both ends are looked at apart: the front first, and the back in reverse.
  have front_dropped : (before ++ written ++ after).dropWhile isBlank = written ++ after := by
    rw [List.append_assoc, List.dropWhile_append_of_pos leading, begins, List.cons_append,
      List.dropWhile_cons_of_neg (by simp [firstPlain])]
  have back_dropped : (written ++ after).reverse.dropWhile isBlank = written.reverse := by
    rw [List.reverse_append, List.dropWhile_append_of_pos (by simpa using trailing), ends,
      List.reverse_append, List.reverse_singleton, List.singleton_append,
      List.dropWhile_cons_of_neg (by simp [lastPlain])]
  rw [trim, front_dropped, back_dropped, List.reverse_reverse]

/-- A number that fits a width is written with so many characters. -/
theorem length_paddedDigits (filled : 0 < width) (fits : number < 10 ^ width) :
    (paddedDigits width number).length = width := by
  -- The zeros fill up what the digits leave.
  have short := (Nat.length_toDigits_le_iff (by decide : 1 < 10) filled).mpr fits
  simp only [paddedDigits, List.length_append, List.length_replicate]
  omega

/-- A number is written with digits. -/
theorem isDigit_of_mem_paddedDigits {c : Char} (listed : c ∈ paddedDigits width number) :
    c.isDigit = true := by
  -- A character is one of the zeros or one of the digits.
  rcases List.mem_append.mp listed with zero | own
  · rw [List.eq_of_mem_replicate zero]
    rfl
  · exact Nat.isDigit_of_mem_toDigits (by decide) (by decide) own

/-- The zeros in front of a number do not change it. -/
theorem ofDigitChars_paddedDigits (width number : Nat) :
    Nat.ofDigitChars 10 (paddedDigits width number) 0 = number := by
  -- A zero in front multiplies nothing.
  rw [paddedDigits, Nat.ofDigitChars_append, Nat.ofDigitChars_replicate_zero, Nat.mul_zero,
    Nat.ofDigitChars_ten_toDigits]

/-- A number is written with at least one digit. -/
theorem paddedDigits_ne_nil : paddedDigits width number ≠ [] := by
  -- Even zero has a digit.
  simp [paddedDigits, Nat.toDigits_ne_nil]

/-- A number is written with a digit at its beginning. -/
theorem paddedDigits_first (width number : Nat) :
    ∃ c others, paddedDigits width number = c :: others ∧ c.isDigit = true := by
  -- There is a first character, and every character is a digit.
  cases written : paddedDigits width number with
  | nil => exact absurd written paddedDigits_ne_nil
  | cons c others =>
    exact ⟨c, others, rfl, @isDigit_of_mem_paddedDigits width number c (by simp [written])⟩

/-- A number is written with a digit at its end. -/
theorem paddedDigits_last (width number : Nat) :
    ∃ others c, paddedDigits width number = others ++ [c] ∧ c.isDigit = true := by
  -- There is a last character, and every character is a digit.
  rcases List.eq_nil_or_concat (paddedDigits width number) with none | ⟨others, c, ends⟩
  · exact absurd none paddedDigits_ne_nil
  · rw [List.concat_eq_append] at ends
    exact ⟨others, c, ends, @isDigit_of_mem_paddedDigits width number c (by simp [ends])⟩

namespace Date

variable {date : Date}

/-- A year of four digits is written without a sign. -/
theorem yearChars_eq (least : 0 ≤ date.year) (most : date.year < 10000) :
    yearChars date.year = paddedDigits 4 date.year.toNat := if_pos ⟨least, most⟩

/-- A date with a year of four digits is written with a digit at its beginning. -/
theorem chars_first (least : 0 ≤ date.year) (most : date.year < 10000) :
    ∃ c others, date.chars = c :: others ∧ c.isDigit = true := by
  -- Such a year has no sign in front.
  obtain ⟨c, others, written, digit⟩ := paddedDigits_first 4 date.year.toNat
  rw [chars, yearChars_eq least most, written]
  exact ⟨c, _, rfl, digit⟩

/-- A year is written with a sign or a digit at its beginning, and neither of them is blank. -/
theorem yearChars_first (year : Int) :
    ∃ c others, yearChars year = c :: others ∧ Text.isBlank c = false := by
  -- The sign is written for all other years, and both signs are plain.
  unfold yearChars
  split
  · obtain ⟨c, others, written, digit⟩ := paddedDigits_first 4 year.toNat
    exact ⟨c, others, written, Text.isBlank_of_isDigit digit⟩
  · refine ⟨_, _, rfl, ?_⟩
    split <;> decide

/-- Nothing is skipped in front of a year. -/
theorem dropWhile_yearChars (year : Int) :
    (yearChars year ++ rest).dropWhile Text.isBlank = yearChars year ++ rest := by
  -- What is skipped are blanks, and the first character is none.
  obtain ⟨c, others, written, plain⟩ := yearChars_first year
  rw [written, List.cons_append, List.dropWhile_cons_of_neg (by simp [plain])]

/-- A day of the calendar with a year of four digits is written with ten characters. -/
theorem length_chars (real : date.InCalendar) (least : 0 ≤ date.year) (most : date.year < 10000) :
    date.chars.length = 10 := by
  -- Four digits, twice two digits, and two hyphens.
  have months := real.month_le
  have days := Nat.le_trans real.day_le (daysIn_le ..)
  simp [chars, yearChars_eq least most,
    length_paddedDigits (by decide) (by omega : date.year.toNat < 10 ^ 4),
    length_paddedDigits (by decide) (by omega : date.month < 10 ^ 2),
    length_paddedDigits (by decide) (by omega : date.day < 10 ^ 2)]

end Date

namespace DateText

/-- Digits are read as the number that they write. -/
theorem foldl_digits (digits : List Char) :
    digits.foldl (fun value c => value * 10 + (c.toNat - '0'.toNat)) 0
      = Nat.ofDigitChars 10 digits 0 := by
  -- The order of the factors is the only difference.
  rw [Nat.ofDigitChars_eq_foldl]
  congr 1
  funext value c
  rw [Nat.mul_comm]

/-- As many digits as there may be are read as a number. -/
theorem readNumber_digits (digit : ∀ c ∈ digits, c.isDigit = true) (filled : digits ≠ []) :
    readNumber (some digits.length) (digits ++ rest)
      = some (Nat.ofDigitChars 10 digits 0, rest) := by
  -- The limit cuts the text just behind the digits.
  have taken : ((digits ++ rest).take digits.length).takeWhile Char.isDigit = digits := by
    rw [List.take_left]
    exact List.takeWhile_eq_self_iff.mpr digit
  simp only [readNumber, taken, List.isEmpty_eq_false_iff.mpr filled, foldl_digits, List.drop_left,
    Bool.false_eq_true, if_false]

/-- Where any number of digits may be read, they are read up to the first character that is none. -/
theorem readNumber_run {c : Char} (digit : ∀ c ∈ digits, c.isDigit = true) (filled : digits ≠ [])
    (stops : c.isDigit = false) :
    readNumber none (digits ++ c :: rest) = some (Nat.ofDigitChars 10 digits 0, c :: rest) := by
  -- Without a limit the character that is no digit ends the run.
  have taken : (digits ++ c :: rest).takeWhile Char.isDigit = digits := by
    rw [List.takeWhile_append_of_pos digit, List.takeWhile_cons_of_neg (by simp [stops]),
      List.append_nil]
  simp only [readNumber, taken, List.isEmpty_eq_false_iff.mpr filled, foldl_digits, List.drop_left,
    Bool.false_eq_true, if_false]

/-- A number of a width is read back where one of at most this width is asked for. -/
theorem readNumber_padded (filled : 0 < width) (fits : number < 10 ^ width) (rest : List Char) :
    readNumber (some width) (paddedDigits width number ++ rest) = some (number, rest) := by
  -- The width is the number of digits, so that the limit lies behind them.
  have read := @readNumber_digits (paddedDigits width number) rest
    (fun c => isDigit_of_mem_paddedDigits) paddedDigits_ne_nil
  rwa [length_paddedDigits filled fits, ofDigitChars_paddedDigits] at read

/-- A number of a width is read back where one of just this width is asked for. -/
theorem readFixed_padded (filled : 0 < width) (fits : number < 10 ^ width) (rest : List Char) :
    readFixed width (paddedDigits width number ++ rest) = some (number, rest) := by
  -- All digits within the width are there, which is what is checked.
  have long := length_paddedDigits filled fits
  have taken : ((paddedDigits width number ++ rest).take width).takeWhile Char.isDigit
      = paddedDigits width number := by
    rw [List.take_left' long]
    exact List.takeWhile_eq_self_iff.mpr fun c => isDigit_of_mem_paddedDigits
  rw [readFixed, taken, if_pos long, readNumber_padded filled fits]

/-- Nothing is skipped in front of a number. -/
theorem dropWhile_padded : (paddedDigits width number ++ rest).dropWhile Text.isBlank
    = paddedDigits width number ++ rest := by
  -- A digit is no blank.
  obtain ⟨c, others, written, digit⟩ := paddedDigits_first width number
  rw [written, List.cons_append, List.dropWhile_cons_of_neg]
  simp [Text.isBlank_of_isDigit digit]

/-- A number of two digits is read back where it is within the range that is asked for. -/
theorem readPart_padded {low high : Nat} (fits : number < 10 ^ 2) (least : low ≤ number)
    (most : number ≤ high) (rest : List Char) :
    readPart low high (paddedDigits 2 number ++ rest) = some (number, rest) := by
  -- The width bounds the digits, and the range bounds the number.
  rw [readPart, dropWhile_padded, readNumber_padded (by decide) fits]
  exact if_pos ⟨least, most⟩

/-- A year without a sign is read as a number of at most four digits. -/
theorem readYear_padded (fits : number < 10 ^ 4) (rest : List Char) :
    readYear (paddedDigits 4 number ++ rest) = some ((number : Int), rest) := by
  -- At most four digits are read, and there are just four.
  have read := @readNumber_padded 4 number (by decide) fits rest
  -- The first digit is no sign, so that the year is one without.
  obtain ⟨c, others, written, digit⟩ := paddedDigits_first 4 number
  rw [written, List.cons_append] at read ⊢
  unfold readYear
  split
  · rename_i same
    cases same
    cases digit
  · rename_i same
    cases same
    cases digit
  · rw [read]
    rfl

/-- A year is read back, with its sign if it has one, up to a character that is no digit. -/
theorem readYear_yearChars {c : Char} (year : Int) (stops : c.isDigit = false) :
    readYear (Date.yearChars year ++ c :: rest) = some (year, c :: rest) := by
  -- A year with a sign has any number of digits, and their value is that of the year.
  have run := @readNumber_run (paddedDigits 4 year.natAbs) rest c
    (fun c => isDigit_of_mem_paddedDigits) paddedDigits_ne_nil stops
  rw [ofDigitChars_paddedDigits] at run
  unfold Date.yearChars
  split
  · rename_i plain
    rw [readYear_padded (by omega), Int.toNat_of_nonneg plain.1]
  · by_cases negative : year < 0
    · have own : -((year.natAbs : Nat) : Int) = year := by omega
      simp only [if_pos negative, List.cons_append, readYear, run, Option.map_some, own]
    · have own : ((year.natAbs : Nat) : Int) = year := by omega
      simp only [if_neg negative, List.cons_append, readYear, run, Option.map_some, own]

namespace Format

variable {date : Date} {moment : Moment} {format : Format}

/-- A fixed character is passed over. -/
theorem readFrom_literal (c : Char) :
    readFrom moment (c :: rest) (.literal c :: format) = readFrom moment rest format := by
  -- The first character is the one that the format asks for.
  simp [readFrom, Part.read]

/-- A year is read into the date, up to a character that is no digit. -/
theorem readFrom_year {c : Char} (year : Int) (stops : c.isDigit = false) :
    readFrom moment (Date.yearChars year ++ c :: rest) (.year :: format)
      = readFrom { moment with date.year := year } (c :: rest) format := by
  -- Blanks in front of a year are dropped, and a year has none.
  simp [readFrom, Part.read, Date.dropWhile_yearChars, readYear_yearChars year stops]

/-- A month is read into the date. -/
theorem readFrom_month (least : 1 ≤ number) (most : number ≤ 12) :
    readFrom moment (paddedDigits 2 number ++ rest) (.month :: format)
      = readFrom { moment with date.month := number } rest format := by
  -- The bounds of the format are those of the calendar.
  simp [readFrom, Part.read, readPart_padded (by omega : number < 10 ^ 2) least most]

/-- A day of a month is read into the date. -/
theorem readFrom_day (least : 1 ≤ number) (most : number ≤ 31) :
    readFrom moment (paddedDigits 2 number ++ rest) (.day :: format)
      = readFrom { moment with date.day := number } rest format := by
  -- The format bounds the day by 31, whatever the month.
  simp [readFrom, Part.read, readPart_padded (by omega : number < 10 ^ 2) least most]

/-- A day of the calendar is read back by every format that begins with the format of a date. -/
theorem readFrom_date (real : date.InCalendar) :
    readFrom moment (date.chars ++ rest) (dateFormat ++ format)
      = readFrom { moment with date } rest format := by
  -- The parts are read one after the other, and each ends where the next one begins.
  simp only [Date.chars, List.append_assoc, List.cons_append, dateFormat, List.nil_append]
  rw [readFrom_year _ (by decide), readFrom_literal,
    readFrom_month real.month_pos real.month_le, readFrom_literal,
    readFrom_day real.day_pos (Nat.le_trans real.day_le (Date.daysIn_le ..))]

end Format

end DateText

end RowFilter
