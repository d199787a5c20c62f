import Mathlib.Tactic.IntervalCases
import RowFilter.Calendar.Date

/-! Days of the calendar are numbered one after another, and a day is known from its number. -/

namespace RowFilter.Date

/-- Whether a date names a day of the calendar, in whatever year. -/
structure InCalendar (date : Date) : Prop where
  month_pos : 1 ≤ date.month
  month_le : date.month ≤ 12
  day_pos : 1 ≤ date.day
  day_le : date.day ≤ daysIn date.year date.month

variable {date : Date}

/-- A date is valid exactly if it is a day of the calendar in one of the years that are covered. -/
theorem isValid_iff : date.isValid = true ↔
    firstYear ≤ date.year ∧ date.year ≤ lastYear ∧ date.InCalendar := by
  -- The same six bounds, once as a test and once as a record of facts.
  simp only [isValid, Bool.and_eq_true, decide_eq_true_eq]
  constructor
  · rintro ⟨⟨⟨⟨⟨first, last⟩, least⟩, most⟩, early⟩, late⟩
    exact ⟨first, last, least, most, early, late⟩
  · rintro ⟨first, last, least, most, early, late⟩
    exact ⟨⟨⟨⟨⟨first, last⟩, least⟩, most⟩, early⟩, late⟩

/-- A leap year is known from what remains of its number. -/
theorem isLeapYear_iff (year : Int) : isLeapYear year = true ↔
    year % 4 = 0 ∧ (year % 100 ≠ 0 ∨ year % 400 = 0) := by
  -- The test is the statement, but for its type.
  simp [isLeapYear]

/-- Every month has a first day. -/
theorem daysIn_pos (year : Int) (month : Nat) : 1 ≤ daysIn year month := by
  -- All three lengths are positive.
  unfold daysIn
  split_ifs <;> decide

/-- No month has more than 31 days. -/
theorem daysIn_le (year : Int) (month : Nat) : daysIn year month ≤ 31 := by
  -- The longest of the three lengths is 31.
  unfold daysIn
  split_ifs <;> decide

/-- The day after a day of the calendar is one too. -/
theorem InCalendar.next (real : date.InCalendar) : date.next.InCalendar := by
  -- The day moves on within its month, into the next month, or into the next year.
  obtain ⟨least, most, early, late⟩ := real
  unfold Date.next
  split
  · rename_i inside
    exact ⟨least, most, Nat.le_succ_of_le early, inside⟩
  · split
    · rename_i earlier
      exact ⟨by simp, earlier, by simp, daysIn_pos ..⟩
    · exact ⟨by simp, by simp, by simp, daysIn_pos ..⟩

/-- The day before a day of the calendar is one too. -/
theorem InCalendar.previous (real : date.InCalendar) : date.previous.InCalendar := by
  -- The day moves back within its month, into the month before, or into the year before.
  obtain ⟨least, most, early, late⟩ := real
  unfold Date.previous
  split
  · rename_i inside
    exact ⟨least, most, Nat.le_sub_one_of_lt inside, Nat.le_trans (Nat.sub_le ..) late⟩
  · split
    · rename_i later
      exact ⟨Nat.le_sub_one_of_lt later, Nat.le_trans (Nat.sub_le ..) most, daysIn_pos .., le_rfl⟩
    · exact ⟨by simp, by simp, by simp, by simp [daysIn]⟩

/-- The day after the day before is the day itself. -/
theorem next_previous (real : date.InCalendar) : date.previous.next = date := by
  -- The day before is found in the same three ways as the day itself came after it.
  obtain ⟨year, month, day⟩ := date
  obtain ⟨least, most, early, late⟩ := real
  simp only at least most early late
  unfold previous
  split
  · -- Within a month the day is counted down and up again.
    have inside : day - 1 < daysIn year month := by omega
    simp only [next, if_pos inside, Nat.sub_add_cancel early]
  · have first : day = 1 := by simp only at *; omega
    split
    · -- The last day of a month is followed by the first one of the next.
      rename_i later
      have before : month - 1 < 12 := by omega
      simp only [next, Nat.lt_irrefl, if_false, if_pos before, Nat.sub_add_cancel least, first]
    · -- The last day of a year is followed by the first one of the next.
      have opening : month = 1 := by simp only at *; omega
      simp [next, daysIn, first, opening]

/-- The day after is in the same year or in the next one. -/
theorem year_next (date : Date) : date.year ≤ date.next.year ∧ date.next.year ≤ date.year + 1 := by
  -- Only the last day of December leads into another year.
  unfold next
  split
  · simp
  · split <;> simp

/-- The day before is in the same year or in the one before. -/
theorem year_previous (date : Date) :
    date.year - 1 ≤ date.previous.year ∧ date.previous.year ≤ date.year := by
  -- Only the first day of January leads into another year.
  unfold previous
  split
  · simp
  · split <;> simp

/-- Days that follow one another have numbers that follow one another. -/
theorem dayNumber_next (real : date.InCalendar) : date.next.dayNumber = date.dayNumber + 1 := by
  -- Each of the three ways of moving on adds a day to the count.
  obtain ⟨year, month, day⟩ := date
  obtain ⟨least, most, early, late⟩ := real
  simp only at least most early late
  unfold next
  split
  · -- Within a month the day counts by itself.
    simp only [dayNumber]
    omega
  · -- A month is left on its last day, and only the length of February depends on the year.
    rename_i inside
    have last : day = daysIn year month := by simp only at inside; omega
    have leap := isLeapYear_iff year
    subst last
    interval_cases month
    case «2» =>
      cases whether : isLeapYear year <;>
        simp only [whether, Bool.false_eq_true, false_iff, true_iff] at leap <;>
        simp [daysIn, dayNumber, daysBefore, whether] <;> omega
    all_goals
      simp [daysIn, dayNumber, daysBefore]
      try omega

/-- Days that follow one another have numbers that follow one another, also backwards. -/
theorem dayNumber_previous (real : date.InCalendar) :
    date.previous.dayNumber = date.dayNumber - 1 := by
  -- The day is the next one of the day before.
  have behind := dayNumber_next real.previous
  rw [next_previous real] at behind
  omega

/-- The year of a date if years begin in March. -/
def marchYear (date : Date) : Int := if date.month ≤ 2 then date.year - 1 else date.year

/-- The month of a date, counted from March. -/
def marchMonth (date : Date) : Int := if date.month ≤ 2 then date.month + 9 else date.month - 3

/-- The number of days from the first of March to a date. -/
def marchDay (date : Date) : Int := daysBefore date.marchMonth + (date.day - 1)

/-- A day is numbered by the days of the years before its year, and then within it. -/
theorem dayNumber_eq (date : Date) :
    date.dayNumber = 365 * date.marchYear + date.marchYear / 4 - date.marchYear / 100
      + date.marchYear / 400 + date.marchDay - 719468 := by
  -- The same sum, with the months counted from March.
  simp only [dayNumber, marchDay, marchMonth, marchYear]
  omega

/-- A year that begins in March has 365 days, and one more if the next one is a leap year. -/
theorem marchDay_bounds (real : date.InCalendar) : 0 ≤ date.marchDay ∧ date.marchDay ≤ 365 ∧
    (date.marchDay = 365 → isLeapYear (date.marchYear + 1) = true) := by
  -- The months are few, and each has its place in the year and its length.
  obtain ⟨year, month, day⟩ := date
  obtain ⟨least, most, early, late⟩ := real
  simp only at least most early late
  -- February is the last month of such a year, and has one day more in a leap year.
  cases whether : isLeapYear year <;>
    interval_cases month <;>
      simp [daysIn, whether] at late <;>
      simp [marchDay, marchMonth, marchYear, daysBefore, whether] <;>
      omega

/-- The month is known from the number of days since the first of March. -/
theorem marchMonth_of_marchDay (real : date.InCalendar) :
    (5 * date.marchDay + 2) / 153 = date.marchMonth := by
  -- The months from March on are 31 and 30 days long in turn, five of them 153 days together.
  obtain ⟨year, month, day⟩ := date
  obtain ⟨least, most, early, late⟩ := real
  simp only at least most early late
  have long : daysIn year 2 ≤ 29 := by
    simp only [daysIn, if_true]
    split <;> decide
  -- Only February depends on the year, and its last day does not reach into March.
  interval_cases month
  case «2» =>
    simp [marchDay, marchMonth, daysBefore]
    omega
  all_goals
    simp [daysIn] at late
    simp [marchDay, marchMonth, daysBefore]
    omega

/-- The year of an era of four hundred years is known from the number of days since the era began,
of which leap days are taken out. -/
theorem yearOfEra_eq {year day : Int} (first : 0 ≤ year) (last : year < 400) (early : 0 ≤ day)
    (late : day ≤ 365) (leap : day = 365 → isLeapYear (year + 1) = true) :
    let dayOfEra := 365 * year + year / 4 - year / 100 + day
    (dayOfEra - dayOfEra / 1460 + dayOfEra / 36524 - dayOfEra / 146096) / 365 = year := by
  -- The quotients take the leap days out again that were counted in.
  intro dayOfEra
  rw [isLeapYear_iff] at leap
  -- The year in centuries, in fours of years within a century, and in years within four.
  obtain ⟨century, four, rest, split, least, most, lowFour, highFour, lowRest, highRest⟩ :
      ∃ century four rest : Int, year = 100 * century + 4 * four + rest ∧ 0 ≤ century ∧
        century ≤ 3 ∧ 0 ≤ four ∧ four ≤ 24 ∧ 0 ≤ rest ∧ rest ≤ 3 :=
    ⟨year / 100, year % 100 / 4, year % 4, by omega⟩
  have whole : dayOfEra = 36524 * century + 1461 * four + 365 * rest + day := by omega
  -- A leap day ends four years, but a century only if it is the last one of the era.
  have added : day = 365 → rest = 3 ∧ (four = 24 → century = 3) := by omega
  have centuries : dayOfEra / 36524 - dayOfEra / 146096 = century := by
    rcases Int.lt_or_le dayOfEra (36524 * century + 36524) with within | beyond
    · have counted : dayOfEra / 36524 = century := by omega
      have young : dayOfEra / 146096 = 0 := by omega
      omega
    · -- Only the last day of the era is more than a whole century after the last one began.
      have final : dayOfEra = 146096 := by omega
      omega
  have within : 365 * year ≤ dayOfEra - dayOfEra / 1460 + century ∧
      dayOfEra - dayOfEra / 1460 + century < 365 * year + 365 := by omega
  omega

/-- A day of the calendar is known from its number. -/
theorem ofDayNumber_dayNumber (real : date.InCalendar) : ofDayNumber date.dayNumber = date := by
  -- The number is taken apart as it was put together: era, year, month and day.
  obtain ⟨early, late, leap⟩ := marchDay_bounds real
  have month := marchMonth_of_marchDay real
  have shifted := dayNumber_eq date
  -- The years split into eras of four hundred years, which have the same days each.
  have fours : date.marchYear % 400 / 4 = date.marchYear / 4 - 100 * (date.marchYear / 400) := by
    omega
  have centuries :
      date.marchYear % 400 / 100 = date.marchYear / 100 - 4 * (date.marchYear / 400) := by omega
  have era : (date.dayNumber + 719468) / 146097 = date.marchYear / 400 := by omega
  have inEra : (date.dayNumber + 719468) % 146097
      = 365 * (date.marchYear % 400) + date.marchYear % 400 / 4 - date.marchYear % 400 / 100
        + date.marchDay := by omega
  have leapInEra : date.marchDay = 365 → isLeapYear (date.marchYear % 400 + 1) = true := by
    rw [isLeapYear_iff] at leap ⊢
    omega
  have year := yearOfEra_eq (Int.emod_nonneg date.marchYear (by decide))
    (Int.emod_lt_of_pos date.marchYear (by decide)) early late leapInEra
  simp only at year
  have inYear : 365 * (date.marchYear % 400) + date.marchYear % 400 / 4
      - date.marchYear % 400 / 100 + date.marchDay
      - (365 * (date.marchYear % 400) + date.marchYear % 400 / 4 - date.marchYear % 400 / 100)
      = date.marchDay := by omega
  simp only [ofDayNumber, era, inEra, year, inYear, month]
  obtain ⟨year, month, day⟩ := date
  obtain ⟨least, most, early, late⟩ := real
  simp only at least most early late
  simp only [marchDay, marchMonth, marchYear, mk.injEq]
  -- January and February belong to the year that began in March before.
  refine ⟨?_, ?_, ?_⟩
  · split_ifs <;> omega
  · split_ifs <;> omega
  · split_ifs <;> omega

/-- The first of January 1970 is the day from which days are counted. -/
example : dayNumber ⟨1970, 1, 1⟩ = 0 ∧ dayNumber ⟨2024, 2, 29⟩ + 1 = dayNumber ⟨2024, 3, 1⟩ := by
  decide

end RowFilter.Date
