import RowFilter.Calendar.Moment
import RowFilter.Proofs.Calendar.DayNumber

/-! Moments as points in time: a moment is known from its timestamp, and an offset moves it. -/

namespace RowFilter.Moment

/-- Whether a moment is on a day of the calendar and on the clock, where a minute may end with a
leap second. -/
structure IsOnClock (moment : Moment) : Prop where
  real : moment.date.InCalendar
  hour : moment.hour ≤ 23
  minute : moment.minute ≤ 59
  second : moment.second ≤ 60

/-- The number of seconds from the start of 1970 to a moment in universal time; a leap second counts
as the second before it. -/
def timestamp (moment : Moment) : Int :=
  -- The leap second has no number of its own.
  moment.date.dayNumber * 86400 + moment.hour * 3600 + moment.minute * 60 + min moment.second 59

/-- A point in time: the seconds from the start of 1970 in universal time, and how many seconds the
last one of them runs on as a leap second. -/
structure Instant where
  seconds : Int
  leap : Nat
deriving DecidableEq

/-- The point in time of a moment at an offset in minutes from universal time. -/
def instantAt (moment : Moment) (offset : Int) : Instant :=
  -- What the second has beyond 59 is kept beside the timestamp.
  ⟨moment.timestamp - 60 * offset, moment.second - 59⟩

/-- The moment of a point in time in universal time. -/
def Instant.moment? (instant : Instant) : Option Moment :=
  -- A leap second is told by a whole second of nanoseconds.
  ofTimestamp? instant.seconds (instant.leap * 1000000000)

variable {moment : Moment}

/-- A moment of whole seconds in universal time is known from its point in time. -/
theorem moment?_instantAt (clock : moment.IsOnClock) (covered : moment.date.isValid = true)
    (whole : moment.nanosecond = 0) : (moment.instantAt 0).moment? = some moment := by
  -- Day, hour, minute and second are the quotients and remainders of the timestamp.
  obtain ⟨real, hour, minute, second⟩ := clock
  -- The timestamp splits into whole days and the seconds of the last one.
  have day : moment.timestamp / 86400 = moment.date.dayNumber := by
    unfold timestamp
    omega
  have inDay : (moment.timestamp % 86400).toNat
      = moment.hour * 3600 + moment.minute * 60 + min moment.second 59 := by
    unfold timestamp
    omega
  have hours : (moment.hour * 3600 + moment.minute * 60 + min moment.second 59) / 3600
      = moment.hour := by omega
  have minutes : (moment.hour * 3600 + moment.minute * 60 + min moment.second 59) / 60 % 60
      = moment.minute := by omega
  have seconds : (moment.hour * 3600 + moment.minute * 60 + min moment.second 59) % 60
      = min moment.second 59 := by omega
  simp only [Instant.moment?, instantAt, Int.mul_zero, Int.sub_zero, ofTimestamp?, day,
    Date.ofDayNumber_dayNumber real, covered, inDay, hours, minutes, seconds, Bool.not_true,
    Bool.false_eq_true, if_false]
  -- Only the last second of a minute may run on for another one.
  rcases Nat.lt_or_ge moment.second 60 with plain | leap
  · have none : moment.second - 59 = 0 := by omega
    have all : min moment.second 59 = moment.second := by omega
    have same : (⟨moment.date, moment.hour, moment.minute, moment.second, 0⟩ : Moment)
        = moment := by rw [← whole]
    simp [none, all, same]
  · have last : moment.second = 60 := by omega
    have same : (⟨moment.date, moment.hour, moment.minute, 60, 0⟩ : Moment) = moment := by
      rw [← whole, ← last]
    simp [last, same]

variable {offset : Int}

/-- An offset of less than a day moves a moment by as many days as its clock turns over. -/
theorem earlier_date (clock : moment.IsOnClock) (behind : -1440 < offset) (ahead : offset < 1440) :
    (moment.earlier offset).date.InCalendar ∧
    (moment.earlier offset).date.dayNumber
      = moment.date.dayNumber + (moment.hour * 60 + moment.minute - offset) / 1440 := by
  -- The number of days is that of the turns of the clock: one back, one on, or none.
  obtain ⟨real, hour, minute, -⟩ := clock
  have before := Date.dayNumber_previous real
  have after := Date.dayNumber_next real
  -- Less than a day is taken away or added, so that the date changes by one at most.
  unfold earlier minutesPerDay
  simp only
  split_ifs
  · exact ⟨real.previous, by omega⟩
  · exact ⟨real.next, by omega⟩
  · exact ⟨real, by omega⟩

/-- A moment is moved by at most a year. -/
theorem earlier_year (moment : Moment) (offset : Int) :
    moment.date.year - 1 ≤ (moment.earlier offset).date.year ∧
      (moment.earlier offset).date.year ≤ moment.date.year + 1 := by
  -- Only the day before and the day after can be in another year.
  obtain ⟨first, last⟩ := moment.date.year_previous
  obtain ⟨least, most⟩ := moment.date.year_next
  unfold earlier
  simp only
  split_ifs
  · exact ⟨first, by omega⟩
  · exact ⟨by omega, most⟩
  · exact ⟨by omega, by omega⟩

/-- A moment moved by less than a day stays in the calendar and on the clock, and its timestamp is
moved by as many minutes. -/
theorem IsOnClock.earlier (clock : moment.IsOnClock) (behind : -1440 < offset)
    (ahead : offset < 1440) : (moment.earlier offset).IsOnClock ∧
      (moment.earlier offset).timestamp = moment.timestamp - 60 * offset := by
  -- The clock is the remainder of what the date is the quotient of.
  obtain ⟨real, moved⟩ := earlier_date clock behind ahead
  refine ⟨⟨real, ?_, ?_, clock.second⟩, ?_⟩
  · simp only [Moment.earlier, minutesPerDay]
    omega
  · simp only [Moment.earlier, minutesPerDay]
    omega
  · rw [timestamp, timestamp, moved]
    simp only [Moment.earlier, minutesPerDay]
    omega

end RowFilter.Moment
