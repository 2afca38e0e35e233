/-
**The Gregorian calendar.**

Days are numbered from 1 January 1970, day 0, in both directions, and the calendar is extended
before its introduction by the same rule: a year is a leap year when 4 divides it and 100 does not,
or 400 does.

* `daysBefore` counts the days before a year;
* `ofDay` finds the year of a day and the day's number in it, counted from 1.
-/

namespace Downlink.Calendar

/-- Whether a year has 366 days. -/
def isLeap (year : Int) : Bool :=
  year % 4 == 0 && year % 100 != 0 || year % 400 == 0

/-- The number of the first day of a year. -/
def daysBefore (year : Int) : Int :=
  let elapsed := year - 1
  365 * elapsed + elapsed / 4 - elapsed / 100 + elapsed / 400 - 719162

/-- A day by its year and its number in the year. -/
structure OrdinalDate where
  year : Int
  /-- Counted from 1. -/
  ordinal : Int
  deriving DecidableEq, Repr

/-- The date of a day: whole cycles of 400 years, then whole centuries, of which the last of a cycle
is a day longer, then whole cycles of 4 years, then whole years, of which the last is a day longer.
-/
def ofDay (day : Int) : OrdinalDate :=
  let sinceFirst := day + 719162
  let cycles := sinceFirst / 146097
  let inCycle := sinceFirst % 146097
  let centuries := min (inCycle / 36524) 3
  let inCentury := inCycle - 36524 * centuries
  let quads := inCentury / 1461
  let inQuad := inCentury % 1461
  let years := min (inQuad / 365) 3
  ⟨400 * cycles + 100 * centuries + 4 * quads + years + 1, inQuad - 365 * years + 1⟩

end Downlink.Calendar
