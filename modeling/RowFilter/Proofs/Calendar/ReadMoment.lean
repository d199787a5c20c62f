import RowFilter.Proofs.Calendar.OffsetText

/-! What is read as a moment, in whatever form, is in the calendar and on the clock. -/

namespace RowFilter

/-- Whether the time of a moment is one of the clock, on whatever date. -/
structure Moment.IsTimed (moment : Moment) : Prop where
  hour : moment.hour ≤ 23
  minute : moment.minute ≤ 59
  second : moment.second ≤ 60

namespace DateText

variable {moment after : Moment} {date : Date} {text rest : List Char}

/-- What is read as a number within a range is within the range. -/
theorem readPart_bounds {low high value : Nat}
    (read : readPart low high text = some (value, rest)) : low ≤ value ∧ value ≤ high := by
  -- The range is checked last, so that there is a number only within it.
  obtain ⟨⟨number, behind⟩, -, checked⟩ := Option.bind_eq_some_iff.mp read
  dsimp only at checked
  split at checked
  · rename_i within
    cases checked
    exact within
  · cases checked

/-- A part that is read sets one field of a moment at most, and keeps the time on the clock. -/
theorem Part.read_isTimed {part : Part} (timed : moment.IsTimed)
    (read : part.read moment text = some (after, rest)) : after.IsTimed := by
  -- Each part sets its own field, and the bound of that field is the one it is read with.
  obtain ⟨hour, minute, second⟩ := timed
  cases part with
  | year | month | day =>
    -- The date may become any numbers, but the time stays as it was.
    obtain ⟨_, -, made⟩ := Option.bind_eq_some_iff.mp read
    cases made
    exact ⟨hour, minute, second⟩
  | hour =>
    obtain ⟨_, own, made⟩ := Option.bind_eq_some_iff.mp read
    cases made
    exact ⟨(readPart_bounds own).2, minute, second⟩
  | minute =>
    obtain ⟨_, own, made⟩ := Option.bind_eq_some_iff.mp read
    cases made
    exact ⟨hour, (readPart_bounds own).2, second⟩
  | second =>
    obtain ⟨_, own, made⟩ := Option.bind_eq_some_iff.mp read
    cases made
    exact ⟨hour, minute, (readPart_bounds own).2⟩
  | fraction =>
    -- A fraction may be missing, and it sets none of the three numbers.
    simp only [Part.read] at read
    split at read
    · obtain ⟨_, -, made⟩ := Option.bind_eq_some_iff.mp read
      cases made
      exact ⟨hour, minute, second⟩
    · cases read
      exact ⟨hour, minute, second⟩
  | literal c =>
    simp only [Part.read] at read
    split at read
    · split at read
      · cases read
        exact ⟨hour, minute, second⟩
      · cases read
    · cases read
  | space =>
    cases read
    exact ⟨hour, minute, second⟩

/-- What is read by a format is a moment in the calendar and on the clock. -/
theorem Format.readFrom_isOnClock {format : Format} (timed : moment.IsTimed)
    (read : Format.readFrom moment text format = some after) :
    after.date.isValid = true ∧ after.IsOnClock := by
  -- Each part keeps the time on the clock, and the date is checked behind the last one.
  induction format generalizing moment text with
  | nil =>
    -- Nothing may be left, and the date has to be one of the calendar.
    unfold Format.readFrom at read
    split at read
    · rename_i whole
      cases read
      exact ⟨whole.2, (Date.isValid_iff.mp whole.2).2.2, timed.hour, timed.minute, timed.second⟩
    · cases read
  | cons part format ih =>
    obtain ⟨⟨between, behind⟩, own, others⟩ := Option.bind_eq_some_iff.mp read
    exact ih (Part.read_isTimed timed own) others

/-- So many digits write a number below the power of ten. -/
theorem ofDigitChars_lt {digits : List Char} (digit : ∀ c ∈ digits, c.isDigit = true) :
    Nat.ofDigitChars 10 digits 0 < 10 ^ digits.length := by
  -- The number that has been read so far is quantified over.
  have general : ∀ (digits : List Char) (before : Nat), (∀ c ∈ digits, c.isDigit = true) →
      Nat.ofDigitChars 10 digits before < (before + 1) * 10 ^ digits.length := by
    intro digits
    induction digits with
    | nil => intro before _; simp
    | cons c others ih =>
      intro before digit
      obtain ⟨own, behind⟩ := List.forall_mem_cons.mp digit
      -- One more digit stays below ten times the next number.
      have small : c.toNat - '0'.toNat ≤ 9 := by
        simp only [Char.isDigit, Bool.and_eq_true, decide_eq_true_eq] at own
        have most : c.toNat ≤ 57 := own.2
        show c.toNat - 48 ≤ 9
        omega
      have step := ih (10 * before + (c.toNat - '0'.toNat)) behind
      rw [Nat.ofDigitChars_cons, List.length_cons]
      calc _ < (10 * before + (c.toNat - '0'.toNat) + 1) * 10 ^ others.length := step
        _ ≤ (10 * (before + 1)) * 10 ^ others.length := Nat.mul_le_mul_right _ (by omega)
        _ = (before + 1) * 10 ^ (others.length + 1) := by
          rw [Nat.pow_succ, Nat.mul_comm 10, Nat.mul_assoc, Nat.mul_comm 10]
  have all := general digits 0 digit
  rwa [Nat.zero_add, Nat.one_mul] at all

/-- A number of just so many digits is below the power of ten. -/
theorem readFixed_lt {width value : Nat} (read : readFixed width text = some (value, rest)) :
    value < 10 ^ width := by
  -- There are as many characters as the width says, and all of them are digits.
  unfold readFixed at read
  split at read
  · rename_i long
    unfold readNumber at read
    dsimp only at read
    split at read
    · cases read
    · cases read
      have below := @ofDigitChars_lt ((text.take width).takeWhile Char.isDigit) fun c listed =>
        List.mem_takeWhile_imp listed
      rwa [long, ← foldl_digits] at below
  · cases read

/-- An offset that is read is less than a day. -/
theorem readOffset_bounds {offset : Int} (read : readOffset text = some offset) :
    -1440 < offset ∧ offset < 1440 := by
  -- Hours below 24 and minutes below 60 are less than a day, with either sign.
  unfold readOffset at read
  split at read
  -- Either letter of universal time is an offset of zero.
  · cases read
    decide
  · cases read
    decide
  · -- Behind either sign there are the same hours and minutes.
    dsimp only at read
    split_ifs at read
    case neg => cases read
    all_goals
      obtain ⟨negative, -, read⟩ := Option.bind_eq_some_iff.mp read
      obtain ⟨⟨hours, behind⟩, -, read⟩ := Option.bind_eq_some_iff.mp read
      dsimp only at read
      split at read
      case h_2 => cases read
      obtain ⟨⟨minutes, last⟩, -, read⟩ := Option.bind_eq_some_iff.mp read
      dsimp only at read
      split at read
      case isFalse => cases read
      cases read
      split <;> omega
  · cases read

/-- A moment of a year with four digits stays in the calendar when it is moved to universal time. -/
theorem isValid_earlier {offset : Int} (clock : moment.IsOnClock) (least : 0 ≤ moment.date.year)
    (most : moment.date.year < 10000) (behind : -1440 < offset) (ahead : offset < 1440) :
    (moment.earlier offset).date.isValid = true := by
  -- The years that are covered reach far beyond four digits.
  obtain ⟨first, last⟩ := Moment.earlier_year moment offset
  rw [Date.isValid_iff, Date.firstYear, Date.lastYear]
  exact ⟨by omega, by omega, (clock.earlier behind ahead).1.real⟩

/-- What is read with an offset is a moment in the calendar and on the clock. -/
theorem readOffsetMoment_isOnClock (read : readOffsetMoment text = some moment) :
    moment.date.isValid = true ∧ moment.IsOnClock := by
  -- The reader takes the year, the other parts and the offset, with a fixed character between them.
  obtain ⟨⟨year, behind⟩, years, read⟩ := Option.bind_eq_some_iff.mp read
  have fits := readFixed_lt years
  dsimp only at read
  obtain ⟨_, -, read⟩ := Option.bind_eq_some_iff.mp read
  obtain ⟨⟨month, behind⟩, -, read⟩ := Option.bind_eq_some_iff.mp read
  obtain ⟨_, -, read⟩ := Option.bind_eq_some_iff.mp read
  obtain ⟨⟨day, behind⟩, -, read⟩ := Option.bind_eq_some_iff.mp read
  dsimp only at read
  split at read
  case h_2 => cases read
  split at read
  case isFalse => cases read
  obtain ⟨_, -, read⟩ := Option.bind_eq_some_iff.mp read
  obtain ⟨⟨hour, behind⟩, -, read⟩ := Option.bind_eq_some_iff.mp read
  obtain ⟨_, -, read⟩ := Option.bind_eq_some_iff.mp read
  obtain ⟨⟨minute, behind⟩, -, read⟩ := Option.bind_eq_some_iff.mp read
  obtain ⟨_, -, read⟩ := Option.bind_eq_some_iff.mp read
  obtain ⟨⟨second, behind⟩, -, read⟩ := Option.bind_eq_some_iff.mp read
  dsimp only at read
  split at read
  all_goals
    obtain ⟨⟨nanosecond, behind⟩, -, read⟩ := Option.bind_eq_some_iff.mp read
    obtain ⟨offset, offsets, read⟩ := Option.bind_eq_some_iff.mp read
    dsimp only at read
    split at read
    case isFalse => cases read
    rename_i within
    cases read
    obtain ⟨late, ahead⟩ := readOffset_bounds offsets
    -- The parts are checked together, behind the last one.
    have clock : Moment.IsOnClock ⟨⟨year, month, day⟩, hour, minute, second, nanosecond⟩ :=
      ⟨(Date.isValid_iff.mp within.1).2.2, within.2.1, within.2.2.1, within.2.2.2⟩
    refine ⟨isValid_earlier clock ?_ ?_ late ahead, (clock.earlier late ahead).1⟩
    · show 0 ≤ (year : Int)
      omega
    · show (year : Int) < 10000
      omega

end DateText

end RowFilter
