import RowFilter.Filter.Compile
import RowFilter.Proofs.Calendar.DateText
import RowFilter.Proofs.Calendar.Timestamp

/-! Moments written with an offset from universal time are compared in universal time. -/

namespace RowFilter

namespace DateText

/-- An offset of some minutes as hours and minutes with a sign. -/
def offsetChars (offset : Int) : List Char :=
  -- An offset of zero has a plus.
  (if offset < 0 then '-' else '+')
    :: (paddedDigits 2 (offset.natAbs / 60) ++ ':' :: paddedDigits 2 (offset.natAbs % 60))

/-- Whether some characters write an offset of less than a day; universal time itself may also be
written as a letter, or as an unknown offset of zero. -/
inductive IsOffset : Int → List Char → Prop
  | signed {offset : Int} (behind : -1440 < offset) (ahead : offset < 1440) :
    IsOffset offset (offsetChars offset)
  | letter {c : Char} (universal : c = 'Z' ∨ c = 'z') : IsOffset 0 [c]
  | unknown : IsOffset 0 ['-', '0', '0', ':', '0', '0']

/-- Whether some characters write a fraction of a second: nothing, or a point with digits. -/
inductive IsFraction : List Char → Prop
  | none : IsFraction []
  | digits {digits : List Char} (digit : ∀ c ∈ digits, c.isDigit = true) (filled : digits ≠ []) :
    IsFraction ('.' :: digits)

/-- Whether some characters write a moment with an offset by the rules of internet timestamps: date
and time of day are separated by a letter or a blank, seconds may have a fraction, and the offset
stands at the end. -/
inductive IsOffsetMoment (moment : Moment) (offset : Int) : List Char → Prop
  | intro {separator : Char} {fraction zone : List Char}
    (separated : separator = 'T' ∨ separator = 't' ∨ separator = ' ')
    (fractional : IsFraction fraction) (zoned : IsOffset offset zone) :
    IsOffsetMoment moment offset
      (moment.date.chars ++ separator :: (moment.clockChars ++ (fraction ++ zone)))

variable {moment : Moment} {offset : Int} {zone fraction rest : List Char}

/-- A step that succeeds goes on with what it has read. -/
theorem bind_step {α β : Type} {first : Option α} {next : α → Option β} {value : α}
    {result : Option β} (read : first = some value) (behind : next value = result) :
    first >>= next = result := by
  -- What has been read stands in the place of the step.
  rw [read]
  exact behind

/-- An offset is less than a day. -/
theorem IsOffset.bounds (zoned : IsOffset offset zone) : -1440 < offset ∧ offset < 1440 := by
  -- Only the form with a sign has a number that could be large.
  cases zoned with
  | signed behind ahead => exact ⟨behind, ahead⟩
  | letter => decide
  | unknown => decide

/-- An offset begins with a letter or a sign. -/
theorem IsOffset.first (zoned : IsOffset offset zone) :
    ∃ c others, zone = c :: others ∧ c.isDigit = false ∧ c ≠ '.' := by
  -- There are three forms, and none of them begins with a digit or a point.
  cases zoned with
  | signed =>
    refine ⟨_, _, rfl, ?_⟩
    split <;> decide
  | letter universal =>
    refine ⟨_, _, rfl, ?_⟩
    rcases universal with rfl | rfl <;> decide
  | unknown => exact ⟨_, _, rfl, by decide⟩

/-- An offset ends with a letter or a digit. -/
theorem IsOffset.last (zoned : IsOffset offset zone) :
    ∃ others c, zone = others ++ [c] ∧ Text.isBlank c = false := by
  -- Only the form with a sign ends with a digit that depends on the offset.
  cases zoned with
  | signed =>
    obtain ⟨others, c, ends, digit⟩ := paddedDigits_last 2 (offset.natAbs % 60)
    refine ⟨(if offset < 0 then '-' else '+')
      :: (paddedDigits 2 (offset.natAbs / 60) ++ ':' :: others), c, ?_,
      Text.isBlank_of_isDigit digit⟩
    simp [offsetChars, ends]
  | letter universal =>
    refine ⟨[], _, rfl, ?_⟩
    rcases universal with rfl | rfl <;> decide
  | unknown => exact ⟨['-', '0', '0', ':', '0'], '0', rfl, by decide⟩

/-- An offset is read as so many minutes. -/
theorem readOffset_isOffset (zoned : IsOffset offset zone) : readOffset zone = some offset := by
  -- The three forms are those that the reader tells apart by the first character.
  cases zoned with
  | signed behind ahead =>
    have hours : offset.natAbs / 60 ≤ 23 := by omega
    have minutes : offset.natAbs % 60 ≤ 59 := by omega
    have total : offset.natAbs = offset.natAbs / 60 * 60 + offset.natAbs % 60 := by omega
    -- The offset is its hours and minutes with the sign, and nothing else of it is read.
    unfold offsetChars
    generalize offset.natAbs / 60 = hour at *
    generalize offset.natAbs % 60 = minute at *
    have clock := readFixed_padded (by decide) (by omega : hour < 10 ^ 2)
      (':' :: paddedDigits 2 minute)
    have last := readFixed_padded (by decide) (by omega : minute < 10 ^ 2) []
    rw [List.append_nil] at last
    by_cases negative : offset < 0
    · simp [readOffset, negative, clock, last, hours, minutes]
      omega
    · simp [readOffset, negative, clock, last, hours, minutes]
      omega
  | letter universal => rcases universal with rfl | rfl <;> rfl
  | unknown => decide

/-- The digits of a fraction are read up to the offset, whatever they say. -/
theorem readFraction_digits {digits : List Char} (digit : ∀ c ∈ digits, c.isDigit = true)
    (filled : digits ≠ []) (zoned : IsOffset offset zone) :
    ∃ value, readFraction (digits ++ zone) = some (value, zone) := by
  -- The first character of the offset ends the digits, as it is none.
  obtain ⟨c, others, rfl, sign, -⟩ := zoned.first
  -- Nine digits count, and the others are passed over.
  have split : digits ++ c :: others = digits.take 9 ++ (digits.drop 9 ++ c :: others) := by
    rw [← List.append_assoc, List.take_append_drop]
  have taken : ((digits ++ c :: others).take 9).takeWhile Char.isDigit = digits.take 9 := by
    rw [← List.take_takeWhile, List.takeWhile_append_of_pos digit,
      List.takeWhile_cons_of_neg (by simp [sign]), List.append_nil]
  have some : (digits.take 9).isEmpty = false := by
    cases digits with
    | nil => exact absurd rfl filled
    | cons first more => rfl
  have left : ((digits ++ c :: others).drop (digits.take 9).length).dropWhile Char.isDigit
      = c :: others := by
    rw [split, List.drop_left, List.dropWhile_append_of_pos
      fun own listed => digit own (List.mem_of_mem_drop listed),
      List.dropWhile_cons_of_neg (by simp [sign])]
  simp only [readFraction, readNumber, taken, some, Bool.false_eq_true, if_false,
    Option.bind_eq_bind, Option.bind_some, left, Option.pure_def]
  exact ⟨_, rfl⟩

/-- A fraction behind the seconds is read up to the offset, and a missing one is none. -/
theorem readFraction_before (fractional : IsFraction fraction) (zoned : IsOffset offset zone) :
    ∃ nanosecond, ∀ next : Nat × List Char → Option Moment,
      (match fraction ++ zone with
        | '.' :: rest => readFraction rest >>= next
        | rest => some (0, rest) >>= next) = next (nanosecond, zone) := by
  -- No offset begins with a point, so that a point belongs to a fraction.
  cases fractional with
  | none =>
    obtain ⟨c, others, rfl, -, point⟩ := zoned.first
    refine ⟨0, fun next => ?_⟩
    rw [List.nil_append]
    split
    · rename_i same
      cases same
      exact absurd rfl point
    · rfl
  | digits digit filled =>
    obtain ⟨nanosecond, read⟩ := readFraction_digits digit filled zoned
    exact ⟨nanosecond, fun next => bind_step read rfl⟩

/-- A moment that is written with an offset is read in universal time, on whatever nanosecond. -/
theorem readOffsetMoment_written {text : List Char} (clock : moment.IsOnClock)
    (least : 0 ≤ moment.date.year) (most : moment.date.year < 10000)
    (written : IsOffsetMoment moment offset text) :
    ∃ nanosecond, readOffsetMoment text = some ({ moment with nanosecond }.earlier offset) := by
  -- The reader is strict, so that the text can be followed part by part.
  obtain ⟨separated, fractional, zoned⟩ := written
  rename_i separator fraction zone
  obtain ⟨real, hour, minute, second⟩ := clock
  have months := real.month_le
  have days := Nat.le_trans real.day_le (Date.daysIn_le ..)
  have covered : moment.date.isValid = true := by
    rw [Date.isValid_iff, Date.firstYear, Date.lastYear]
    exact ⟨by omega, by omega, real⟩
  -- Each part has as many digits as are read for it.
  have year := readFixed_padded (by decide) (by omega : moment.date.year.toNat < 10 ^ 4)
  have month := readFixed_padded (by decide) (by omega : moment.date.month < 10 ^ 2)
  have day := readFixed_padded (by decide) (by omega : moment.date.day < 10 ^ 2)
  have hours := readFixed_padded (by decide) (by omega : moment.hour < 10 ^ 2)
  have minutes := readFixed_padded (by decide) (by omega : moment.minute < 10 ^ 2)
  have seconds := readFixed_padded (by decide) (by omega : moment.second < 10 ^ 2)
  have own : ((moment.date.year.toNat : Nat) : Int) = moment.date.year := Int.toNat_of_nonneg least
  -- What is behind the seconds is a fraction that may be missing, and then the offset.
  obtain ⟨nanosecond, finish⟩ := readFraction_before fractional zoned
  refine ⟨nanosecond, ?_⟩
  simp only [Date.chars, Moment.clockChars, Date.yearChars_eq least most, List.append_assoc,
    List.cons_append]
  -- The reader goes over the text part by part, each followed by its own separator.
  refine bind_step (year _) ?_
  refine bind_step (show readChar '-' _ = some _ from rfl) ?_
  refine bind_step (month _) ?_
  refine bind_step (show readChar '-' _ = some _ from rfl) ?_
  refine bind_step (day _) ?_
  refine (if_pos separated).trans ?_
  refine bind_step rfl ?_
  refine bind_step (hours _) ?_
  refine bind_step (show readChar ':' _ = some _ from rfl) ?_
  refine bind_step (minutes _) ?_
  refine bind_step (show readChar ':' _ = some _ from rfl) ?_
  refine bind_step (seconds _) ?_
  refine (finish _).trans ?_
  refine bind_step (readOffset_isOffset zoned) ?_
  rw [own]
  exact if_pos ⟨covered, hour, minute, second⟩

/-- A moment that is written with an offset has the text of the moment in universal time as its
canonical form: it is longer than a date, and it is read as one with an offset before any other form
is tried. -/
theorem canonicalChars?_written {text : List Char} (clock : moment.IsOnClock)
    (least : 0 ≤ moment.date.year) (most : moment.date.year < 10000)
    (written : IsOffsetMoment moment offset text) :
    canonicalChars? text = some (moment.earlier offset).chars := by
  -- The form of a date is refused for what stands behind it, and the strict form comes next.
  obtain ⟨nanosecond, read⟩ := readOffsetMoment_written clock least most written
  obtain ⟨behind, split, more⟩ : ∃ behind, text = moment.date.chars ++ behind ∧ behind ≠ [] := by
    cases written
    exact ⟨_, rfl, by simp⟩
  have long : ¬ Text.byteLength text < shortestDate := by
    have bytes := Text.length_le_byteLength text
    rw [split, List.length_append, Date.length_chars clock.real least most] at bytes
    rw [split, shortestDate]
    omega
  -- Behind the date there is more, so that the text is no date by itself.
  have noDate : dateFormat.read? text = none := by
    rw [split, Format.read?, ← List.append_nil dateFormat, Format.readFrom_date clock.real]
    exact if_neg fun ends => more (List.isEmpty_iff.mp ends.1)
  rw [canonicalChars?, if_neg long, noDate, read]
  rfl

/-- Whether a text writes a moment with an offset, between any blanks: the moment is in the calendar
and on the clock, and its year has four digits. -/
structure Writes (text : String) (moment : Moment) (offset : Int) : Prop where
  clock : moment.IsOnClock
  least : 0 ≤ moment.date.year
  most : moment.date.year < 10000
  spelled : ∃ before written after, text.toList = before ++ written ++ after ∧
    (∀ c ∈ before, Text.isBlank c = true) ∧ (∀ c ∈ after, Text.isBlank c = true) ∧
    IsOffsetMoment moment offset written

namespace Writes

variable {text : String}

/-- The offset of a text is less than a day. -/
theorem bounds (writes : Writes text moment offset) : -1440 < offset ∧ offset < 1440 := by
  -- The offset is part of what is written, whatever blanks stand around it.
  obtain ⟨_, _, _, -, -, -, written⟩ := writes.spelled
  cases written with
  | intro _ _ zoned => exact zoned.bounds

/-- The canonical form of a text that writes a moment with an offset is the text of the moment moved
by the offset. -/
theorem canonical?_earlier (writes : Writes text moment offset) :
    canonical? text = some (String.ofList (moment.earlier offset).chars) := by
  -- Blanks at both ends are dropped, and what is left is what was written.
  obtain ⟨clock, least, most, before, written, after, split, leading, trailing, own⟩ := writes
  -- What is written begins with a digit and ends with a digit or a letter.
  obtain ⟨first, behind, begins, firstPlain⟩ :
      ∃ first behind, written = first :: behind ∧ Text.isBlank first = false := by
    cases own
    obtain ⟨c, others, spelled, digit⟩ := Date.chars_first least most
    rw [spelled]
    exact ⟨c, _, rfl, Text.isBlank_of_isDigit digit⟩
  obtain ⟨front, last, ends, lastPlain⟩ :
      ∃ front last, written = front ++ [last] ∧ Text.isBlank last = false := by
    cases own with
    | @intro separator fraction zone separated fractional zoned =>
      obtain ⟨others, c, rfl, plain⟩ := zoned.last
      refine ⟨moment.date.chars ++ separator :: (moment.clockChars ++ (fraction ++ others)), c, ?_,
        plain⟩
      simp
  rw [canonical?, split, Text.trim_surrounded leading trailing begins ends firstPlain lastPlain,
    canonicalChars?_written clock least most own]
  rfl

/-- The moment in universal time of a text that writes a moment with an offset is that of its point
in time. -/
theorem moment?_earlier (writes : Writes text moment offset) :
    let universal := { moment.earlier offset with nanosecond := 0 }
    universal.IsOnClock ∧ universal.instantAt 0 = moment.instantAt offset ∧
      (moment.instantAt offset).moment? = some universal := by
  -- The moment that is reached writes whole seconds, so that its point in time determines it.
  intro universal
  obtain ⟨behind, ahead⟩ := writes.bounds
  obtain ⟨clock, moved⟩ := writes.clock.earlier behind ahead
  have own : universal.IsOnClock := ⟨clock.real, clock.hour, clock.minute, clock.second⟩
  -- A year of four digits is far from the ends of the years that are covered.
  have covered : universal.date.isValid = true := by
    obtain ⟨first, last⟩ := Moment.earlier_year moment offset
    have least := writes.least
    have most := writes.most
    rw [Date.isValid_iff, Date.firstYear, Date.lastYear]
    exact ⟨by show _ ≤ (moment.earlier offset).date.year; omega,
      by show (moment.earlier offset).date.year ≤ _; omega, clock.real⟩
  have same : universal.instantAt 0 = moment.instantAt offset := by
    have seconds : universal.timestamp = moment.timestamp - 60 * offset := moved
    rw [Moment.instantAt, Moment.instantAt, seconds]
    simp [universal, Moment.earlier]
  have known := Moment.moment?_instantAt own covered rfl
  rw [same] at known
  exact ⟨own, same, known⟩

end Writes

/-- A search for a text in a column of dates looks for its canonical form. -/
theorem containing_date {text canonical : String} (known : canonical? text = some canonical)
    (column : String) (negated : Bool) : Predicate.containing column text negated (some .date)
      = .like column (containsPattern canonical) negated .dateText := by
  -- The kind of the column decides, and the text is known to have a canonical form.
  simp [Predicate.containing, Predicate.searchCast, known]

/-- A text that writes a moment with an offset, in whatever spelling and between any blanks, has the
moment that its point in time has in universal time as its canonical form. Every other text of the
same point in time has the same canonical form, and both are searched for in a column of dates by
the same pattern. -/
theorem canonical?_instantAt {text : String} (writes : Writes text moment offset) :
    ∃ universal : Moment, universal.IsOnClock ∧
      universal.instantAt 0 = moment.instantAt offset ∧
      (moment.instantAt offset).moment? = some universal ∧
      canonical? text = some (String.ofList universal.chars) ∧
      (∀ column negated, Predicate.containing column text negated (some .date)
        = .like column (containsPattern (String.ofList universal.chars)) negated .dateText) ∧
      ∀ (other : String) (own : Moment) (zone : Int), Writes other own zone →
        own.instantAt zone = moment.instantAt offset →
        canonical? other = canonical? text ∧
        ∀ column negated, Predicate.containing column other negated (some .date)
          = Predicate.containing column text negated (some .date) := by
  -- What is true of one spelling is true of all, as only the point in time is used.
  obtain ⟨clock, same, known⟩ := writes.moment?_earlier
  -- The form of a text depends on nothing but its point in time.
  have form : ∀ (other : String) (own : Moment) (zone : Int), Writes other own zone →
      own.instantAt zone = moment.instantAt offset →
      canonical? other
        = some (String.ofList { moment.earlier offset with nanosecond := 0 }.chars) := by
    intro other own zone also alike
    obtain ⟨-, -, reached⟩ := also.moment?_earlier
    rw [alike, known, Option.some.injEq] at reached
    rw [also.canonical?_earlier, reached]
    rfl
  have first := form text moment offset writes rfl
  refine ⟨_, clock, same, known, first, containing_date first, fun other own zone also alike => ?_⟩
  have second := form other own zone also alike
  refine ⟨second.trans first.symm, fun column negated => ?_⟩
  rw [containing_date first, containing_date second]

/-- An evening of the last day of February west of Greenwich and a morning of the next day east of
it are the same point in time. -/
theorem canonical?_instantAt_leapDay :
    let evening : Moment := ⟨⟨2024, 2, 29⟩, 23, 30, 0, 0⟩
    let morning : Moment := ⟨⟨2024, 3, 1⟩, 6, 0, 0, 0⟩
    Writes " 2024-02-29T23:30:00.250-01:00\n" evening (-60) ∧
    Writes "2024-03-01t06:00:00+05:30" morning 330 ∧
    morning.instantAt 330 = evening.instantAt (-60) ∧
    canonical? " 2024-02-29T23:30:00.250-01:00\n" = some "2024-03-01 00:30:00" ∧
    canonical? "2024-03-01t06:00:00+05:30" = canonical? " 2024-02-29T23:30:00.250-01:00\n" := by
  -- Both texts are given with their parts, and the point in time is computed.
  intro evening morning
  have west : Writes " 2024-02-29T23:30:00.250-01:00\n" evening (-60) := by
    refine ⟨⟨⟨by decide, by decide, by decide, by decide⟩, by decide, by decide, by decide⟩,
      by decide, by decide, [' '], _, ['\n'], ?_, List.forall_mem_singleton.mpr rfl,
      List.forall_mem_singleton.mpr rfl, .intro (.inl rfl)
        (@IsFraction.digits ['2', '5', '0'] (List.all_eq_true.mp (by decide))
          (List.cons_ne_nil _ _)) (.signed (by omega) (by omega))⟩
    decide
  have east : Writes "2024-03-01t06:00:00+05:30" morning 330 := by
    refine ⟨⟨⟨by decide, by decide, by decide, by decide⟩, by decide, by decide, by decide⟩,
      by decide, by decide, [], _, [], ?_, List.forall_mem_nil _, List.forall_mem_nil _,
      .intro (.inr (.inl rfl)) .none (.signed (by omega) (by omega))⟩
    decide
  have alike : morning.instantAt 330 = evening.instantAt (-60) := by decide
  obtain ⟨universal, -, -, known, form, -, others⟩ := canonical?_instantAt west
  have reached : (evening.instantAt (-60)).moment? = some ⟨⟨2024, 3, 1⟩, 0, 30, 0, 0⟩ := by decide
  rw [reached, Option.some.injEq] at known
  rw [← known] at form
  exact ⟨west, east, alike, form, (others _ _ _ east alike).1⟩

end DateText

end RowFilter
