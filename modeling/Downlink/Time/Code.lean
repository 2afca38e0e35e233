/-
**Mission time codes.**

Time40 counts seconds in 32 bits and Time42 seconds in 32 bits and 65536ths of a second in 16, both
from 2000-01-01T12:00:00Z. Time44 counts seconds in 32 bits and nanoseconds in 32, from
1970-01-01T00:00:00Z, and its nanoseconds may exceed a second.

* `ofTime40`, `ofTime42` and `ofTime44` give the instant of a code; Time42 is resolved to 100 ns;
* `Instant.toTime42` gives the code of an instant, resolved to a millisecond.
-/

import Downlink.Time.Instant

namespace Downlink

/-- The second at which Time40 and Time42 start. -/
def missionEpoch : Int := 946728000

/-- The number of Time42 ticks in a second. -/
def ticksPerSecond : Nat := 65536

/-- The whole seconds of a Time42 code. -/
def time42Seconds (code : Nat) : Nat :=
  code / ticksPerSecond % 0x100000000

/-- The ticks of a Time42 code. -/
def time42Ticks (code : Nat) : Nat :=
  code % ticksPerSecond

/-- The fraction of a second that a number of ticks makes up. -/
def ticksToFraction (ticks : Float) : Float :=
  ticks / 65536

namespace Instant

/-- The instant of a Time40 code. -/
def ofTime40 (code : Nat) : Instant :=
  ⟨missionEpoch + code, 0⟩

/-- The instant of a Time42 code, cut off at 100 ns. -/
def ofTime42 (code : Nat) : Instant :=
  ⟨missionEpoch + time42Seconds code, time42Ticks code * 10000000 / ticksPerSecond * 100⟩

/-- The instant of a Time44 code; nanoseconds beyond a second carry into the seconds. -/
def ofTime44 (code : Nat) : Instant :=
  let nanoseconds : Nat := code % 0x100000000
  ⟨code / 0x100000000 + nanoseconds / 1000000000, nanoseconds % 1000000000⟩

/-- The Time42 code of an instant, cut off at the millisecond; 0 before the mission epoch. -/
def toTime42 (instant : Instant) : Nat :=
  if instant.seconds < missionEpoch then 0
  else
    ((instant.seconds - missionEpoch).toNat <<< 16) |||
      (instant.milliseconds * ticksPerSecond / 1000)

end Instant

end Downlink
