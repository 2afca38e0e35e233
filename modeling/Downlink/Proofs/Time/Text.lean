/-
**What the text of an instant says.**

A text `yy-DDD-HH:MM:SS.mmm` is read field by field: each one is a numeral of its width, and the
numbers are a day of the calendar and a time of that day. What the text leaves out is the century.

* `numeral_zeroPadded`: a number padded with zeros is the numeral of its width;
* `CalendarTime.count`: the milliseconds from 1970 to a calendar time, counted over the lengths of
  years;
* `Instant.calendarTime_written`, `Instant.count_calendarTime`: the text of an instant from 1970 on
  is that of the calendar time at the instant, cut off at the millisecond;
* `TimeCode.text_tells`: every time code has a text, and it tells the instant of the code.
-/

import Downlink.Proofs.Time.Calendar
import Downlink.Proofs.Time.Codes
import Mathlib.Data.Rat.Floor

namespace Downlink

/-! ### Numerals -/

/-- The text is a number in decimal, in exactly so many digits. -/
structure Numeral (width number : Nat) (text : String) : Prop where
  length_eq : text.length = width
  isDigit : ∀ digit ∈ text.toList, digit.isDigit
  value_eq : Nat.ofDigitChars 10 text.toList 0 = number

theorem toList_zeroPadded (width number : Nat) :
    (zeroPadded width number).toList =
      List.replicate (width - (Nat.toDigits 10 number).length) '0' ++ Nat.toDigits 10 number :=
  String.toList_ofList

/-- Zeros in front do not change a number. -/
theorem value_zeroPadded (width number : Nat) :
    Nat.ofDigitChars 10 (zeroPadded width number).toList 0 = number := by
  rw [toList_zeroPadded, Nat.ofDigitChars_append, Nat.ofDigitChars_replicate_zero, Nat.mul_zero,
    Nat.ofDigitChars_ten_toDigits]

theorem zeroPadded_injective (width : Nat) : Function.Injective (zeroPadded width) := by
  intro first second same
  rw [← value_zeroPadded width first, same, value_zeroPadded]

/-- A number padded with zeros is the numeral of its width. -/
theorem numeral_zeroPadded {width number : Nat} (positive : 0 < width)
    (fits : number < 10 ^ width) : Numeral width number (zeroPadded width number) := by
  have digits : (Nat.toDigits 10 number).length ≤ width :=
    (Nat.length_toDigits_le_iff (by decide) positive).mpr fits
  constructor
  case length_eq =>
    rw [← String.length_toList, toList_zeroPadded, List.length_append, List.length_replicate]
    omega
  case isDigit =>
    intro digit member
    rw [toList_zeroPadded, List.mem_append] at member
    rcases member with zero | member
    · rw [List.eq_of_mem_replicate zero]
      rfl
    · exact Nat.isDigit_of_mem_toDigits (by decide) (by decide) member
  case value_eq => exact value_zeroPadded width number

/-! ### Calendar times -/

/-- A time by the calendar and the clock, to the millisecond. -/
structure CalendarTime where
  year : Nat
  /-- The day of the year, counted from 1. -/
  ordinal : Nat
  hour : Nat
  minute : Nat
  second : Nat
  millisecond : Nat
  deriving DecidableEq, Repr

namespace CalendarTime

/-- The calendar and the clock have the time. -/
structure Exists (time : CalendarTime) : Prop where
  recent : 1970 ≤ time.year
  ordinal_pos : 1 ≤ time.ordinal
  ordinal_le : time.ordinal ≤ Calendar.yearLength time.year
  hour_lt : time.hour < 24
  minute_lt : time.minute < 60
  second_lt : time.second < 60
  millisecond_lt : time.millisecond < 1000

/-- The text is `yy-DDD-HH:MM:SS.mmm` for the time. -/
def WrittenAs (time : CalendarTime) (text : String) : Prop :=
  ∃ year ordinal hour minute second millisecond : String,
    text = year ++ "-" ++ ordinal ++ "-" ++ hour ++ ":" ++ minute ++ ":" ++ second ++ "." ++
      millisecond ∧
    Numeral 2 (time.year % 100) year ∧ Numeral 3 time.ordinal ordinal ∧ Numeral 2 time.hour hour ∧
    Numeral 2 time.minute minute ∧ Numeral 2 time.second second ∧
    Numeral 3 time.millisecond millisecond

/-- The days from 1 January 1970: those of the years that have passed, and of the year. -/
def days (time : CalendarTime) : Int :=
  (∑ past ∈ Finset.Ico 1970 time.year, Calendar.yearLength past) + (time.ordinal - 1)

/-- The milliseconds from the start of 1970. -/
def count (time : CalendarTime) : Int :=
  (((time.days * 24 + time.hour) * 60 + time.minute) * 60 + time.second) * 1000 + time.millisecond

end CalendarTime

/-! ### The time at an instant -/

namespace Instant

/-- The calendar time at an instant. -/
def calendarTime (instant : Instant) : CalendarTime where
  year := instant.date.year.toNat
  ordinal := instant.date.ordinal.toNat
  hour := instant.secondOfDay / 3600
  minute := instant.secondOfDay / 60 % 60
  second := instant.secondOfDay % 60
  millisecond := instant.milliseconds

variable {instant : Instant}

theorem secondOfDay_lt (instant : Instant) : instant.secondOfDay < 86400 := by
  unfold secondOfDay
  omega

theorem milliseconds_lt (plain : instant.nanoseconds < 1000000000) : instant.milliseconds < 1000 :=
  Nat.div_lt_of_lt_mul plain

theorem year_date (recent : 0 ≤ instant.seconds) : 1970 ≤ instant.date.year :=
  Calendar.year_ofDay (Int.ediv_nonneg recent (by decide))

theorem year_calendarTime (recent : 0 ≤ instant.seconds) :
    (instant.calendarTime.year : Int) = instant.date.year := by
  have year := year_date recent
  exact Int.toNat_of_nonneg (by omega)

theorem le_year_calendarTime (recent : 0 ≤ instant.seconds) : 1970 ≤ instant.calendarTime.year := by
  have year := year_date recent
  rw [← year_calendarTime recent] at year
  exact_mod_cast year

theorem ordinal_calendarTime (instant : Instant) :
    (instant.calendarTime.ordinal : Int) = instant.date.ordinal := by
  have started : 1 ≤ instant.date.ordinal := (Calendar.ofDay_exists _).1
  exact Int.toNat_of_nonneg (by omega)

/-- The calendar has the time at an instant. -/
theorem calendarTime_exists (recent : 0 ≤ instant.seconds)
    (plain : instant.nanoseconds < 1000000000) : instant.calendarTime.Exists := by
  have year := year_calendarTime recent
  have ordinal := ordinal_calendarTime instant
  obtain ⟨started, ended⟩ : instant.date.Exists := Calendar.ofDay_exists _
  constructor
  case recent => exact le_year_calendarTime recent
  case ordinal_pos => omega
  case ordinal_le =>
    rw [ordinal, year]
    exact ended
  case hour_lt => exact Nat.div_lt_of_lt_mul instant.secondOfDay_lt
  case minute_lt => exact Nat.mod_lt _ (by decide)
  case second_lt => exact Nat.mod_lt _ (by decide)
  case millisecond_lt => exact milliseconds_lt plain

/-- The days from 1970 are the whole days of the instant. -/
theorem days_calendarTime (recent : 0 ≤ instant.seconds) :
    instant.calendarTime.days = instant.seconds / 86400 := by
  rw [CalendarTime.days, ← Calendar.daysBefore_eq_sum (le_year_calendarTime recent),
    year_calendarTime recent, ordinal_calendarTime]
  exact Calendar.day_ofDay _

/-- The whole milliseconds up to an instant. -/
theorem floor_elapsed (instant : Instant) :
    ⌊instant.elapsed * 1000⌋ = instant.seconds * 1000 + instant.milliseconds := by
  have low : instant.milliseconds * 1000000 ≤ instant.nanoseconds := Nat.div_mul_le_self _ _
  have high : instant.nanoseconds < (instant.milliseconds + 1) * 1000000 := by
    unfold milliseconds
    omega
  have low : (instant.milliseconds : ℚ) * 1000000 ≤ instant.nanoseconds := by exact_mod_cast low
  have high : (instant.nanoseconds : ℚ) < (instant.milliseconds + 1) * 1000000 := by
    exact_mod_cast high
  rw [Int.floor_eq_iff]
  push_cast
  unfold elapsed
  constructor <;> linarith

/-- The time at an instant is the instant, cut off at the millisecond. -/
theorem count_calendarTime (recent : 0 ≤ instant.seconds) :
    instant.calendarTime.count = ⌊instant.elapsed * 1000⌋ := by
  rw [floor_elapsed, CalendarTime.count, days_calendarTime recent]
  simp only [calendarTime, secondOfDay]
  omega

/-- The text of an instant is that of the time at it. -/
theorem calendarTime_written (recent : 0 ≤ instant.seconds)
    (plain : instant.nanoseconds < 1000000000) :
    instant.calendarTime.WrittenAs instant.itos := by
  have time := calendarTime_exists recent plain
  have year : (instant.date.year % 100).toNat = instant.calendarTime.year % 100 := by
    have same := year_calendarTime recent
    omega
  have ordinal : instant.calendarTime.ordinal < 1000 := by
    have ended := time.ordinal_le
    have long := Calendar.yearLength_le instant.calendarTime.year
    omega
  have second : instant.secondOfDay % 60 + instant.nanoseconds / 1000000000 =
      instant.calendarTime.second := by
    rw [Nat.div_eq_of_lt plain]
    rfl
  have millisecond : instant.milliseconds % 1000 = instant.calendarTime.millisecond :=
    Nat.mod_eq_of_lt time.millisecond_lt
  -- outside of leap seconds, nothing is cut off the fields but the century
  refine ⟨_, _, _, _, _, _, rfl, ?_, ?_, ?_, ?_, ?_, ?_⟩
  · rw [year]
    exact numeral_zeroPadded (by decide) (Nat.mod_lt _ (by decide))
  · exact numeral_zeroPadded (by decide) ordinal
  · exact numeral_zeroPadded (by decide) (Nat.lt_trans time.hour_lt (by decide))
  · exact numeral_zeroPadded (by decide) (Nat.lt_trans time.minute_lt (by decide))
  · rw [second]
    exact numeral_zeroPadded (by decide) (Nat.lt_trans time.second_lt (by decide))
  · rw [millisecond]
    exact numeral_zeroPadded (by decide) time.millisecond_lt

/-- The mission starts at noon. -/
example : (⟨missionEpoch, 0⟩ : Instant).itos = "00-001-12:00:00.000" := by decide

/-- In one second, texts tell the milliseconds apart. -/
theorem itos_eq_iff {first second : Instant} (sameSecond : first.seconds = second.seconds)
    (firstPlain : first.nanoseconds < 1000000000) (secondPlain : second.nanoseconds < 1000000000) :
    first.itos = second.itos ↔ first.milliseconds = second.milliseconds := by
  have date : first.date = second.date := by rw [date, sameSecond, date]
  have secondOfDay : first.secondOfDay = second.secondOfDay := by
    rw [secondOfDay, sameSecond, secondOfDay]
  simp only [itos, date, secondOfDay, Nat.div_eq_of_lt firstPlain, Nat.div_eq_of_lt secondPlain,
    String.append_right_inj, (zeroPadded_injective 3).eq_iff,
    Nat.mod_eq_of_lt (milliseconds_lt firstPlain), Nat.mod_eq_of_lt (milliseconds_lt secondPlain)]

end Instant

/-! ### The texts of time codes -/

namespace TimeCode

/-- The text of the instant of a code, if the instant has a date. -/
def text (dated : Instant → Bool) (code : TimeCode) :
    Except Breach (Except DatingError String) := do
  return (← code.date dated).map Instant.itos

variable {dated : Instant → Bool}

theorem text_eq (dates : ∀ instant : Instant, instant.InCodes → dated instant) (code : TimeCode) :
    code.text dated = .ok (.ok code.instant.itos) := by
  rw [text, date_eq dates]
  rfl

/-- **Every time code has a text, which tells a day of the calendar and a time of that day: the
instant of the code, cut off at the millisecond.** -/
theorem text_tells (dates : ∀ instant : Instant, instant.InCodes → dated instant)
    (code : TimeCode) :
    ∃ instant text, code.date dated = .ok (.ok instant) ∧ code.text dated = .ok (.ok text) ∧
      ∃ time : CalendarTime, time.Exists ∧ time.WrittenAs text ∧
        time.count = ⌊instant.elapsed * 1000⌋ := by
  obtain ⟨recent, -, plain⟩ := code.instant_inCodes
  exact ⟨code.instant, code.instant.itos, date_eq dates code, text_eq dates code,
    code.instant.calendarTime, Instant.calendarTime_exists recent plain,
    Instant.calendarTime_written recent plain, Instant.count_calendarTime recent⟩

/-- The last tick of 2100, which is not a leap year. -/
theorem text_tells_centuryEnd :
    (∀ instant : Instant, instant.InCodes → instant.hasDate) ∧
      ∃ instant, (time42 0xbdf99e3fffff).date Instant.hasDate = .ok (.ok instant) ∧
        ∃ time : CalendarTime, time.Exists ∧ time.WrittenAs "00-365-23:59:59.999" ∧
          time.count = ⌊instant.elapsed * 1000⌋ := by
  have dates : ∀ instant : Instant, instant.InCodes → instant.hasDate :=
    fun _ coded => Instant.hasDate_of_inCodes coded
  obtain ⟨instant, text, dated, written, time, known, writtenAs, counted⟩ :=
    text_tells dates (time42 0xbdf99e3fffff)
  have same : text = "00-365-23:59:59.999" := by
    rw [text_eq dates] at written
    rw [← Except.ok.inj (Except.ok.inj written)]
    decide
  exact ⟨dates, instant, dated, time, known, same ▸ writtenAs, counted⟩

end TimeCode

end Downlink
