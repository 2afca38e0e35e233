/-
**Instants of UTC.**

An instant is a second counted from 1970-01-01T00:00:00Z and nanoseconds within it. In the last
second of a minute the nanoseconds may run on past the second: such an instant lies in a leap
second.

* `Instant.itos`: the text `yy-DDD-HH:MM:SS.mmm`, year modulo 100, day of the year, time of day,
  milliseconds cut off; a leap second is second 60.
-/

import Downlink.Time.Calendar

namespace Downlink

/-- A point in time. -/
structure Instant where
  seconds : Int
  nanoseconds : Nat
  deriving DecidableEq, Repr

/-- A number in decimal, with zeros in front up to a width. -/
def zeroPadded (width number : Nat) : String :=
  let digits := Nat.toDigits 10 number
  String.ofList (List.replicate (width - digits.length) '0' ++ digits)

namespace Instant

/-- The milliseconds of the second; past 999 in a leap second. -/
def milliseconds (instant : Instant) : Nat :=
  instant.nanoseconds / 1000000

/-- The date of the instant. -/
def date (instant : Instant) : Calendar.OrdinalDate :=
  Calendar.ofDay (instant.seconds / 86400)

/-- The second of the day, leap seconds not counted. -/
def secondOfDay (instant : Instant) : Nat :=
  (instant.seconds % 86400).toNat

/-- The text `yy-DDD-HH:MM:SS.mmm`. -/
def itos (instant : Instant) : String :=
  let date := instant.date
  let second := instant.secondOfDay
  zeroPadded 2 (date.year % 100).toNat ++ "-" ++ zeroPadded 3 date.ordinal.toNat ++ "-" ++
    zeroPadded 2 (second / 3600) ++ ":" ++ zeroPadded 2 (second / 60 % 60) ++ ":" ++
    zeroPadded 2 (second % 60 + instant.nanoseconds / 1000000000) ++ "." ++
    zeroPadded 3 (instant.milliseconds % 1000)

end Instant

end Downlink
