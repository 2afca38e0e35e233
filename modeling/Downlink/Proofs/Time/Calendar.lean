/-
**The days of the Gregorian calendar.**

A calendar is the lengths of its years and the day on which it starts: a year starts when the one
before it has passed. From 1 January 1970 on, and back from there, the leap years alone say on which
day a date falls.

* `daysBefore_succ`, `daysBefore_1970`: `daysBefore` counts in this way, over all years, and
  `daysBefore_eq_sum` adds up the years from 1970 on;
* `YearPlace.daysBefore_year`, `YearPlace.isLeap_year`: a year by its place in the cycle of 400
  years, which is how `ofDay` finds it;
* `ofDay_eq_iff`: the date of a day is the only one that falls on it.
-/

import Downlink.Time.Calendar
import Mathlib.Algebra.BigOperators.Intervals

namespace Downlink.Calendar

/-! ### Years -/

/-- The number of days of a year. -/
def yearLength (year : Int) : Int :=
  if isLeap year then 366 else 365

theorem isLeap_iff (year : Int) :
    isLeap year ↔ year % 4 = 0 ∧ year % 100 ≠ 0 ∨ year % 400 = 0 := by
  simp [isLeap]

theorem yearLength_le (year : Int) : yearLength year ≤ 366 := by
  unfold yearLength
  split <;> decide

/-- Days are counted from the start of 1970. -/
theorem daysBefore_1970 : daysBefore 1970 = 0 := by
  decide

/-- A year starts when the one before it has passed. -/
theorem daysBefore_succ (year : Int) :
    daysBefore (year + 1) = daysBefore year + yearLength year := by
  have leap := isLeap_iff year
  simp only [yearLength, daysBefore]
  split
  case isTrue long =>
    rw [leap] at long
    omega
  case isFalse short =>
    rw [leap] at short
    omega

/-- The days before a year are those of the years that have passed since 1970. -/
theorem daysBefore_eq_sum {year : Nat} (recent : 1970 ≤ year) :
    daysBefore year = ∑ past ∈ Finset.Ico 1970 year, yearLength past := by
  induction year, recent using Nat.le_induction with
  | base => rw [Finset.Ico_self, Finset.sum_empty]; exact daysBefore_1970
  | succ year recent ih =>
    rw [Finset.sum_Ico_succ_top recent, ← ih]
    exact daysBefore_succ year

theorem daysBefore_mono {first second : Int} (ordered : first ≤ second) :
    daysBefore first ≤ daysBefore second := by
  simp only [daysBefore]
  omega

/-! ### The cycle of 400 years -/

/-- A year by what has passed before it: whole cycles of 400 years, whole centuries of the cycle,
whole cycles of 4 years of the century, and whole years of those. -/
structure YearPlace where
  cycles : Int
  centuries : Int
  quads : Int
  years : Int
  centuries_range : 0 ≤ centuries ∧ centuries ≤ 3
  quads_range : 0 ≤ quads ∧ quads ≤ 24
  years_range : 0 ≤ years ∧ years ≤ 3

namespace YearPlace

/-- The year at a place. -/
def year (place : YearPlace) : Int :=
  400 * place.cycles + 100 * place.centuries + 4 * place.quads + place.years + 1

variable (place : YearPlace)

/-- The first three centuries of a cycle are a day shorter than the last one, and so are the first
three years of four. -/
theorem daysBefore_year :
    daysBefore place.year =
      146097 * place.cycles + 36524 * place.centuries + 1461 * place.quads + 365 * place.years -
        719162 := by
  have centuries := place.centuries_range
  have quads := place.quads_range
  have years := place.years_range
  simp only [daysBefore, year]
  omega

/-- The last year of four is a leap year, but for the one that ends a century, unless that ends the
cycle. -/
theorem isLeap_year :
    isLeap place.year ↔ place.years = 3 ∧ (place.quads = 24 → place.centuries = 3) := by
  have centuries := place.centuries_range
  have quads := place.quads_range
  have years := place.years_range
  rw [isLeap_iff, year]
  omega

theorem yearLength_year :
    yearLength place.year =
      if place.years = 3 ∧ (place.quads = 24 → place.centuries = 3) then 366 else 365 := by
  unfold yearLength
  exact if_congr place.isLeap_year rfl rfl

/-- The date of a day is found from the place of its year. -/
theorem exists_ofDay (day : Int) :
    ∃ place : YearPlace, ∃ passed : Int,
      ofDay day = ⟨place.year, passed + 1⟩ ∧ day = daysBefore place.year + passed ∧
        0 ≤ passed ∧ passed < yearLength place.year := by
  simp only [daysBefore_year, yearLength_year]
  -- The place is what the search for the year passes through.
  refine ⟨⟨_, _, _, _, ?centuries, ?quads, ?years⟩, _, rfl, ?fallsOn, ?start, ?stop⟩
  case centuries | quads | years | start => omega
  case fallsOn | stop =>
    dsimp only
    omega

end YearPlace

/-! ### Dates -/

namespace OrdinalDate

/-- The calendar has the date. -/
def Exists (date : OrdinalDate) : Prop :=
  1 ≤ date.ordinal ∧ date.ordinal ≤ yearLength date.year

/-- The day on which a date falls. -/
def day (date : OrdinalDate) : Int :=
  daysBefore date.year + (date.ordinal - 1)

variable {first second : OrdinalDate}

/-- Dates of an earlier year fall on earlier days. -/
theorem day_lt_of_year_lt (firstExists : first.Exists) (secondExists : second.Exists)
    (earlier : first.year < second.year) : first.day < second.day := by
  have passed := daysBefore_mono (show first.year + 1 ≤ second.year from earlier)
  rw [daysBefore_succ] at passed
  obtain ⟨-, ended⟩ := firstExists
  obtain ⟨started, -⟩ := secondExists
  unfold day
  omega

/-- No two dates fall on one day. -/
theorem eq_of_day_eq (firstExists : first.Exists) (secondExists : second.Exists)
    (same : first.day = second.day) : first = second := by
  rcases Int.lt_trichotomy first.year second.year with earlier | sameYear | later
  · exact absurd same (Int.ne_of_lt (day_lt_of_year_lt firstExists secondExists earlier))
  · have sameOrdinal : first.ordinal = second.ordinal := by
      unfold day at same
      rw [sameYear] at same
      omega
    cases first
    cases second
    cases sameYear
    cases sameOrdinal
    rfl
  · exact absurd same.symm (Int.ne_of_lt (day_lt_of_year_lt secondExists firstExists later))

end OrdinalDate

/-- The calendar has the date of every day. -/
theorem ofDay_exists (day : Int) : (ofDay day).Exists := by
  obtain ⟨place, passed, found, -, start, stop⟩ := YearPlace.exists_ofDay day
  rw [found]
  exact ⟨Int.le_add_of_nonneg_left start, stop⟩

/-- The date of a day falls on that day. -/
theorem day_ofDay (day : Int) : (ofDay day).day = day := by
  obtain ⟨place, passed, found, fallsOn, -, -⟩ := YearPlace.exists_ofDay day
  rw [found, OrdinalDate.day, Int.add_sub_cancel, ← fallsOn]

/-- **The date of a day is the one date that falls on it.** -/
theorem ofDay_eq_iff {day : Int} {date : OrdinalDate} :
    ofDay day = date ↔ date.Exists ∧ date.day = day := by
  constructor
  · rintro rfl
    exact ⟨ofDay_exists day, day_ofDay day⟩
  · rintro ⟨dateExists, rfl⟩
    exact OrdinalDate.eq_of_day_eq (ofDay_exists date.day) dateExists (day_ofDay date.day)

/-- From 1970 on, days have a date in the years from 1970 on. -/
theorem year_ofDay {day : Int} (recent : 0 ≤ day) : 1970 ≤ (ofDay day).year := by
  by_contra early
  have passed := daysBefore_mono (show (ofDay day).year + 1 ≤ 1970 by omega)
  rw [daysBefore_succ, daysBefore_1970] at passed
  have fallsOn := day_ofDay day
  have last := (ofDay_exists day).2
  unfold OrdinalDate.day at fallsOn
  omega

end Downlink.Calendar
