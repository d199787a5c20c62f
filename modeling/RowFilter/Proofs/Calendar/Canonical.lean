import RowFilter.Proofs.Calendar.ReadMoment

/-! The canonical form of a text is its own canonical form, whatever the text looked like. -/

namespace RowFilter.DateText

variable {moment : Moment} {date : Date} {text rest : List Char}

namespace Format

variable {format : Format} {number : Nat}

/-- A blank in front of a number is passed over. -/
theorem readFrom_space :
    readFrom moment (' ' :: (paddedDigits 2 number ++ rest)) (.space :: format)
      = readFrom moment (paddedDigits 2 number ++ rest) format := by
  -- The format drops all blanks, and the digit behind this one stops it.
  have skipped : (' ' :: (paddedDigits 2 number ++ rest)).dropWhile Text.isBlank
      = paddedDigits 2 number ++ rest := by
    rw [List.dropWhile_cons_of_pos (by decide), dropWhile_padded]
  simp [readFrom, Part.read, skipped]

/-- An hour is read into the time. -/
theorem readFrom_hour (most : number ≤ 23) :
    readFrom moment (paddedDigits 2 number ++ rest) (.hour :: format)
      = readFrom { moment with hour := number } rest format := by
  -- Two digits hold every hour, and the bound is that of the format.
  simp [readFrom, Part.read, readPart_padded (by omega : number < 10 ^ 2) (Nat.zero_le _) most]

/-- A minute is read into the time. -/
theorem readFrom_minute (most : number ≤ 59) :
    readFrom moment (paddedDigits 2 number ++ rest) (.minute :: format)
      = readFrom { moment with minute := number } rest format := by
  -- Two digits hold every minute, and the bound is that of the format.
  simp [readFrom, Part.read, readPart_padded (by omega : number < 10 ^ 2) (Nat.zero_le _) most]

/-- A second is read into the time, and so is a leap second. -/
theorem readFrom_second (most : number ≤ 60) :
    readFrom moment (paddedDigits 2 number ++ rest) (.second :: format)
      = readFrom { moment with second := number } rest format := by
  -- The bound of the format is 60, which leaves room for the leap second.
  simp [readFrom, Part.read, readPart_padded (by omega : number < 10 ^ 2) (Nat.zero_le _) most]

end Format

/-- A day of the calendar that is covered is read as itself. -/
theorem dateFormat_read?_chars (valid : date.isValid = true) :
    dateFormat.read? date.chars = some ⟨date, 0, 0, 0, 0⟩ := by
  -- The day is read as a whole, and nothing is left behind it.
  have real := (Date.isValid_iff.mp valid).2.2
  rw [Format.read?, ← List.append_nil date.chars, ← List.append_nil dateFormat,
    Format.readFrom_date real]
  exact if_pos ⟨rfl, valid⟩

/-- A moment as it is written is read by the first one of the formats, without its fraction. -/
theorem read?_chars (valid : moment.date.isValid = true) (clock : moment.IsOnClock) :
    momentFormats.findSome? (·.read? moment.chars)
      = some { moment with nanosecond := 0 } := by
  -- The date is read first, and then the parts of the time one by one.
  have first : Format.read?
      (dateFormat ++ .space :: clockFormat ++ [.literal ':', .second, .fraction]) moment.chars
      = some { moment with nanosecond := 0 } := by
    rw [Format.read?, Moment.chars, List.append_assoc, Format.readFrom_date clock.real,
      Moment.clockChars, clockFormat, List.cons_append, List.cons_append, List.cons_append,
      List.cons_append, List.nil_append, Format.readFrom_space, Format.readFrom_hour clock.hour,
      Format.readFrom_literal, Format.readFrom_minute clock.minute, Format.readFrom_literal,
      ← List.append_nil (paddedDigits 2 moment.second), Format.readFrom_second clock.second]
    exact if_pos ⟨rfl, valid⟩
  exact (List.findSome?_cons_of_isSome (by rw [first]; rfl)).trans first

/-- A moment as it is written is none with an offset: a year with a sign has no four digits, and
behind the seconds there is no offset. -/
theorem readOffsetMoment_chars (clock : moment.IsOnClock) :
    readOffsetMoment moment.chars = none := by
  -- Whether the year has a sign decides where the strict form fails.
  obtain ⟨real, hour, minute, second⟩ := clock
  have months := real.month_le
  have days := Nat.le_trans real.day_le (Date.daysIn_le ..)
  by_cases plain : 0 ≤ moment.date.year ∧ moment.date.year < 10000
  · -- Each part is read, up to the offset that is missing.
    have year := readFixed_padded (by decide) (by omega : moment.date.year.toNat < 10 ^ 4)
    have month := readFixed_padded (by decide) (by omega : moment.date.month < 10 ^ 2)
    have day := readFixed_padded (by decide) (by omega : moment.date.day < 10 ^ 2)
    have hours := readFixed_padded (by decide) (by omega : moment.hour < 10 ^ 2)
    have minutes := readFixed_padded (by decide) (by omega : moment.minute < 10 ^ 2)
    have seconds := readFixed_padded (by decide) (by omega : moment.second < 10 ^ 2) []
    rw [List.append_nil] at seconds
    simp only [Moment.chars, Date.chars, Moment.clockChars, Date.yearChars_eq plain.1 plain.2,
      List.append_assoc, List.cons_append]
    refine bind_step (year _) ?_
    refine bind_step (show readChar '-' _ = some _ from rfl) ?_
    refine bind_step (month _) ?_
    refine bind_step (show readChar '-' _ = some _ from rfl) ?_
    refine bind_step (day _) ?_
    refine (if_pos (.inr (.inr rfl))).trans ?_
    refine bind_step rfl ?_
    refine bind_step (hours _) ?_
    refine bind_step (show readChar ':' _ = some _ from rfl) ?_
    refine bind_step (minutes _) ?_
    refine bind_step (show readChar ':' _ = some _ from rfl) ?_
    exact bind_step seconds rfl
  · -- A sign in front is no digit.
    have signed : readFixed 4 moment.chars = none := by
      rw [Moment.chars, Date.chars, Date.yearChars, if_neg plain]
      split <;> rfl
    rw [readOffsetMoment, signed]
    rfl

/-- A date as it is written has at least as many bytes as a date needs. -/
theorem shortestDate_le_byteLength (real : date.InCalendar) (rest : List Char) :
    ¬ Text.byteLength (date.chars ++ rest) < shortestDate := by
  -- Month and day take two characters each, and the hyphens one each.
  have months := real.month_le
  have days := Nat.le_trans real.day_le (Date.daysIn_le ..)
  -- A year has four characters at least, with its sign or without one.
  have years : 4 ≤ (Date.yearChars date.year).length := by
    have all : ∀ number, 4 ≤ (paddedDigits 4 number).length := by
      intro number
      simp only [paddedDigits, List.length_append, List.length_replicate]
      omega
    unfold Date.yearChars
    split
    · exact all _
    · exact Nat.le_succ_of_le (all _)
  have bytes := Text.length_le_byteLength (date.chars ++ rest)
  simp only [Date.chars, List.length_append, List.length_cons,
    length_paddedDigits (by decide) (by omega : date.month < 10 ^ 2),
    length_paddedDigits (by decide) (by omega : date.day < 10 ^ 2)] at bytes
  rw [shortestDate, Date.chars]
  simp only [List.append_assoc, List.cons_append] at bytes ⊢
  omega

/-- A day of the calendar as it is written is its own canonical form. -/
theorem canonicalChars?_date (valid : date.isValid = true) :
    canonicalChars? date.chars = some date.chars := by
  -- The format of a date is tried first, and takes the whole text.
  have long := shortestDate_le_byteLength (Date.isValid_iff.mp valid).2.2 []
  rw [List.append_nil] at long
  rw [canonicalChars?, if_neg long, dateFormat_read?_chars valid]

/-- A moment as it is written is its own canonical form: there is more than a date and no offset. -/
theorem canonicalChars?_moment (valid : moment.date.isValid = true) (clock : moment.IsOnClock) :
    canonicalChars? moment.chars = some moment.chars := by
  -- The date alone is long enough, so that the time adds nothing that is needed.
  have long := shortestDate_le_byteLength clock.real (' ' :: moment.clockChars)
  -- The format of a date leaves the time, and so does not take the text.
  have noDate : dateFormat.read? moment.chars = none := by
    rw [Format.read?, Moment.chars, ← List.append_nil dateFormat, Format.readFrom_date clock.real]
    exact if_neg fun ends => by cases ends.1
  rw [canonicalChars?, Moment.chars, if_neg long, ← Moment.chars, noDate,
    readOffsetMoment_chars clock, read?_chars valid clock]
  rfl

/-- What a canonical form is: the text of a day of the calendar, or of a moment on the clock. -/
inductive IsCanonical : List Char → Prop
  | date {date : Date} (valid : date.isValid = true) : IsCanonical date.chars
  | moment {moment : Moment} (valid : moment.date.isValid = true) (clock : moment.IsOnClock) :
    IsCanonical moment.chars

/-- Whatever has a canonical form has one that writes a day or a moment. -/
theorem isCanonical_of_canonicalChars? (known : canonicalChars? text = some rest) :
    IsCanonical rest := by
  -- Every way of reading starts from a moment on the clock and keeps it there.
  have blank : blankMoment.IsTimed := ⟨by decide, by decide, by decide⟩
  -- A date is tried first, then a moment with an offset, and then the formats without one.
  unfold canonicalChars? at known
  split at known
  · cases known
  · split at known
    · rename_i read
      cases known
      exact .date (Format.readFrom_isOnClock blank read).1
    · split at known
      · rename_i read
        cases known
        obtain ⟨valid, clock⟩ := readOffsetMoment_isOnClock read
        exact .moment valid clock
      · obtain ⟨moment, found, rfl⟩ := Option.map_eq_some_iff.mp known
        obtain ⟨format, -, read⟩ := List.exists_of_findSome?_eq_some found
        obtain ⟨valid, clock⟩ := Format.readFrom_isOnClock blank read
        exact .moment valid clock

namespace IsCanonical

/-- A canonical form is its own canonical form. -/
theorem canonicalChars? (canonical : IsCanonical text) :
    DateText.canonicalChars? text = some text := by
  -- A canonical form is written for a day or for a moment, and both are read back.
  cases canonical with
  | date valid => exact canonicalChars?_date valid
  | moment valid clock => exact canonicalChars?_moment valid clock

/-- A canonical form begins with the sign or a digit of its year, and ends with a digit. -/
theorem trim (canonical : IsCanonical text) : Text.trim text = text := by
  -- Blanks are only dropped at the ends, so that one character at each end is enough.
  obtain ⟨first, behind, begins, firstPlain⟩ :
      ∃ first behind, text = first :: behind ∧ Text.isBlank first = false := by
    have date (date : Date) (rest : List Char) : ∃ first behind,
        date.chars ++ rest = first :: behind ∧ Text.isBlank first = false := by
      obtain ⟨c, others, written, plain⟩ := Date.yearChars_first date.year
      rw [Date.chars, written]
      exact ⟨c, _, rfl, plain⟩
    cases canonical with
    | @date own => simpa using date own []
    | @moment own => exact date own.date _
  obtain ⟨front, last, ends, lastPlain⟩ :
      ∃ front last, text = front ++ [last] ∧ Text.isBlank last = false := by
    have number (front : List Char) (number : Nat) : ∃ before last,
        front ++ paddedDigits 2 number = before ++ [last] ∧ Text.isBlank last = false := by
      obtain ⟨others, c, written, digit⟩ := paddedDigits_last 2 number
      rw [written, ← List.append_assoc]
      exact ⟨_, c, rfl, Text.isBlank_of_isDigit digit⟩
    cases canonical with
    | @date own =>
      simpa [Date.chars] using
        number (Date.yearChars own.year ++ '-' :: (paddedDigits 2 own.month ++ ['-'])) own.day
    | @moment own =>
      simpa [Moment.chars, Moment.clockChars] using number (own.date.chars
        ++ ' ' :: (paddedDigits 2 own.hour ++ ':' :: (paddedDigits 2 own.minute ++ [':'])))
        own.second
  have whole := @Text.trim_surrounded [] text [] first last behind front (List.forall_mem_nil _)
    (List.forall_mem_nil _) begins ends firstPlain lastPlain
  rwa [List.nil_append, List.append_nil] at whole

end IsCanonical

/-- The canonical form of a text, whatever the text looked like, is its own canonical form. So a
text and its canonical form are searched for by the same condition in a column of dates and in one
that the table does not describe, by an operator with a pattern as well as by a search of its own. -/
theorem canonical?_canonical {text canonical : String} (known : canonical? text = some canonical) :
    canonical? canonical = some canonical ∧
    (∀ kind, kind = some .date ∨ kind = none → ∀ column,
      (∀ negated, Predicate.containing column canonical negated kind
        = Predicate.containing column text negated kind) ∧
      ∀ operator : Operator, operator.shape = .pattern →
        operator.apply column (.scalar (.text canonical)) kind
          = operator.apply column (.scalar (.text text)) kind) ∧
    ∀ (table : Table) (fields : Projection),
      (∀ column ∈ fields.resolve table,
        table.kindOf? column = some .date ∨ table.kindOf? column = none) →
      (Search.within fields (.text canonical)).compile table
        = (Search.within fields (.text text)).compile table := by
  -- The form is one of a day or a moment, and these are read back as themselves.
  have again : canonical? canonical = some canonical := by
    obtain ⟨form, found, rfl⟩ := Option.map_eq_some_iff.mp known
    have own := isCanonical_of_canonicalChars? found
    rw [canonical?, String.toList_ofList, own.trim, own.canonicalChars?]
    rfl
  have same : ∀ kind, kind = some .date ∨ kind = none → ∀ column negated,
      Predicate.containing column canonical negated kind
        = Predicate.containing column text negated kind := by
    rintro kind (rfl | rfl) column negated <;>
      simp [Predicate.containing, Predicate.searchCast, known, again]
  refine ⟨again, fun kind suits column => ⟨same kind suits column, fun operator shape => ?_⟩, ?_⟩
  · -- An operator with a pattern asks for the text in the same way.
    unfold Operator.apply
    simp only [shape, Operator.applyPattern, Scalar.patternText?, same kind suits]
  · intro table fields suits
    -- Nothing that has a canonical form is empty, so that both texts are looked for.
    have filled : ∀ {own : String}, canonical? own = some canonical → own ≠ "" := by
      rintro own reached rfl
      cases reached
    have columns : (fields.resolve table).map
          (fun column => Predicate.containing column canonical false (table.kindOf? column))
        = (fields.resolve table).map
          fun column => Predicate.containing column text false (table.kindOf? column) :=
      List.map_congr_left fun column listed => same _ (suits column listed) column false
    simp only [Search.compile, if_neg (filled known), if_neg (filled again), columns]

/-- A date with a sign, blanks and digits that are missing has a canonical form that is read back,
and so has a leap second that an offset moves to the year before the first one. -/
theorem canonical?_canonical_padded :
    canonical? "-5- 1-  3 4:5:60.25" = some "-0005-01-03 04:05:60" ∧
    canonical? "-0005-01-03 04:05:60" = some "-0005-01-03 04:05:60" ∧
    canonical? "0000-01-01T00:59:60+01:00" = some "-0001-12-31 23:59:60" ∧
    canonical? "-0001-12-31 23:59:60" = some "-0001-12-31 23:59:60" := by
  -- The first two texts are read by the formats, and the third one has an offset.
  have padded : canonical? "-5- 1-  3 4:5:60.25" = some "-0005-01-03 04:05:60" := by decide
  have moved : canonical? "0000-01-01T00:59:60+01:00" = some "-0001-12-31 23:59:60" := by decide
  exact ⟨padded, (canonical?_canonical padded).1, moved, (canonical?_canonical moved).1⟩

end RowFilter.DateText
