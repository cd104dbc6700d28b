import Mathlib.Algebra.Ring.Nat
import Mathlib.Data.List.Basic
/-!
# The Gregorian calendar

Dates, their days of the week, and minutes of a clock on the wall. Every day of every month falls on every
day of the week, in one leap year or another.
-/

namespace IntegrationPlatform

namespace Calendar

/-- Leap years. -/
def isLeap (year : Nat) : Bool :=
  (year % 4 = 0 && year % 100 ≠ 0) || year % 400 = 0

/-- The number of days of a month. -/
def monthLength (leap : Bool) (month : Nat) : Nat :=
  if month = 2 then (if leap then 29 else 28)
  else if month = 4 ∨ month = 6 ∨ month = 9 ∨ month = 11 then 30
  else 31

/-- The number of days of a year before a month. -/
def daysBeforeMonth (leap : Bool) (month : Nat) : Nat :=
  ((List.range' 1 (month - 1)).map (monthLength leap)).sum

/-- The number of days before a year, from the beginning of year 1. -/
def daysBeforeYear (year : Nat) : Nat :=
  365 * (year - 1) + (year - 1) / 4 - (year - 1) / 100 + (year - 1) / 400

/-- A date. -/
structure Date where
  year : Nat
  month : Nat
  day : Nat
  month_mem : 1 ≤ month ∧ month ≤ 12
  day_mem : 1 ≤ day ∧ day ≤ monthLength (isLeap year) month

def Date.toOrdinal (date : Date) : Nat :=
  daysBeforeYear date.year + (daysBeforeMonth (isLeap date.year) date.month + date.day)

/-- The day of the week, from 0 for Sunday. The first day of year 1 was a Monday. -/
def Date.fromSunday (date : Date) : Nat :=
  date.toOrdinal % 7

/-- `date.weekday()`: the day of the week, from 0 for Monday. -/
def Date.fromMonday (date : Date) : Nat :=
  (date.toOrdinal + 6) % 7

/-- A minute of a clock on the wall. -/
structure Moment where
  date : Date
  hour : Nat
  minute : Nat
  hour_lt : hour < 24
  minute_lt : minute < 60

/-- A day that a month has, in leap years at least. -/
def InMonth (month day : Nat) : Prop :=
  (1 ≤ month ∧ month ≤ 12) ∧ 1 ≤ day ∧ day ≤ monthLength true month

theorem monthLength_le (leap : Bool) (month : Nat) : monthLength leap month ≤ monthLength true month := by
  cases leap with
  | true => exact Nat.le_refl _
  | false =>
      unfold monthLength
      split
      · decide
      · exact Nat.le_refl _

theorem Date.inMonth (date : Date) : InMonth date.month date.day :=
  ⟨date.month_mem, date.day_mem.1, Nat.le_trans date.day_mem.2 (monthLength_le _ _)⟩

theorem Date.fromSunday_lt (date : Date) : date.fromSunday < 7 :=
  Nat.mod_lt _ (by decide)

theorem Date.fromMonday_eq (date : Date) : date.fromMonday = (date.fromSunday + 6) % 7 := by
  unfold fromMonday fromSunday
  omega

theorem exists_leap {weekday : Nat} (h : weekday < 7) :
    ∃ year, isLeap year = true ∧ daysBeforeYear year % 7 = weekday := by
  have hall : ∀ weekday < 7, ∃ year ∈ [2000, 2004, 2008, 2012, 2016, 2020, 2024],
      isLeap year = true ∧ daysBeforeYear year % 7 = weekday := by decide
  obtain ⟨year, -, hyear⟩ := hall weekday h
  exact ⟨year, hyear⟩

/-- **Every day of a month falls on every day of the week.** -/
theorem exists_date {month day weekday : Nat} (hday : InMonth month day) (hweekday : weekday < 7) :
    ∃ date : Date, date.month = month ∧ date.day = day ∧ date.fromSunday = weekday := by
  -- The year begins as many days before the day of the week as the day is behind its beginning.
  obtain ⟨year, hleap, hyear⟩ := exists_leap
    (Nat.mod_lt (weekday + 6 * (daysBeforeMonth true month + day)) (show 7 > 0 by decide))
  refine ⟨⟨year, month, day, hday.1, ?_⟩, rfl, rfl, ?_⟩
  · rw [hleap]
    exact hday.2
  · show (daysBeforeYear year + (daysBeforeMonth (isLeap year) month + day)) % 7 = weekday
    rw [hleap]
    omega

/-- The first of January 2026 was a Thursday. -/
example : (Date.fromSunday ⟨2026, 1, 1, by decide, by decide⟩,
    Date.fromMonday ⟨2026, 1, 1, by decide, by decide⟩) = (4, 3) := by decide

end Calendar

end IntegrationPlatform
