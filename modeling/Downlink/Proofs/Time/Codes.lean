/-
**The instants of time codes.**

A machine works out the instant of a time code in words, with checked sums and products, keeps its
seconds in 64 bits and its nanoseconds in 32, and asks whether the instant has a date.

* `TimeCode.date_eq`: no check fails and nothing is lost, whatever the code;
* `Instant.lt_of_elapsed_lt`: instants in order, and on the line of the rational numbers;
* `Instant.renders_ofTime42`, `Instant.Renders.lt`: the instant of a Time42 code is the last one of
  a grid of 100 ns that is not behind it, and so instants are ordered as their codes are;
* `TimeCode.date_faithful`: all of this, for the two codes that count parts of a second.
-/

import Downlink.Proofs.Point.Checked
import Downlink.Proofs.Point.ReturnedKind
import Mathlib.Data.Prod.Lex
import Mathlib.Tactic.Linarith

namespace Downlink

/-! ### Decoding -/

/-- The instant as it is kept: signed seconds of 64 bits and nanoseconds of 32. -/
def Instant.kept (instant : Instant) : Instant :=
  ⟨Int.bmod instant.seconds (1 <<< 64), instant.nanoseconds % (1 <<< 32)⟩

theorem Instant.kept_eq {instant : Instant} (coded : instant.InCodes) : instant.kept = instant := by
  obtain ⟨recent, counted, plain⟩ := coded
  rw [missionEpoch] at counted
  have seconds : Int.bmod instant.seconds (1 <<< 64) = instant.seconds := by
    refine Int.bmod_eq_of_le ?_ ?_ <;> rw [Nat.one_shiftLeft] <;> omega
  have nanoseconds : instant.nanoseconds % (1 <<< 32) = instant.nanoseconds :=
    Nat.mod_eq_of_lt (by rw [Nat.one_shiftLeft]; omega)
  rw [kept, seconds, nanoseconds]

/-- A time code with its format. -/
inductive TimeCode
  | time40 (code : UInt32)
  | time42 (code : UInt64)
  | time44 (code : UInt64)
  deriving DecidableEq, Repr

namespace TimeCode

/-- The number of a code. -/
def number : TimeCode → Nat
  | time40 code => code.toNat
  | time42 code | time44 code => code.toNat

/-- The instant that a code stands for. -/
def instant : TimeCode → Instant
  | time40 code => .ofTime40 code.toNat
  | time42 code => .ofTime42 code.toNat
  | time44 code => .ofTime44 code.toNat

/-- The instant of a code, worked out with all checks. -/
def checkedInstant : TimeCode → Except Breach Instant
  | time40 code => Instant.checkedOfTime40 code.toNat
  | time42 code => Instant.checkedOfTime42 code.toNat
  | time44 code => Instant.checkedOfTime44 code.toNat

/-- The instant of a code, if it has a date. -/
def date (dated : Instant → Bool) (code : TimeCode) :
    Except Breach (Except DatingError Instant) := do
  let instant ← code.checkedInstant
  return if dated instant.kept then .ok instant.kept else .error (.undated code.number)

variable {dated : Instant → Bool}

theorem instant_inCodes (code : TimeCode) : code.instant.InCodes := by
  cases code with
  | time40 code => exact Instant.ofTime40_inCodes code
  | time42 code => exact Instant.ofTime42_inCodes code.toNat
  | time44 code => exact Instant.ofTime44_inCodes code

theorem checkedInstant_eq (code : TimeCode) : code.checkedInstant = .ok code.instant := by
  cases code with
  | time40 code => exact Instant.checkedOfTime40_eq code
  | time42 code => exact Instant.checkedOfTime42_eq code.toNat
  | time44 code => exact Instant.checkedOfTime44_eq code

/-- Every code has its instant, where the instants of codes have dates. -/
theorem date_eq (dates : ∀ instant : Instant, instant.InCodes → dated instant) (code : TimeCode) :
    code.date dated = .ok (.ok code.instant) := by
  have coded := code.instant_inCodes
  rw [date, checkedInstant_eq, ok_bind, Instant.kept_eq coded]
  exact congrArg Except.ok (if_pos (dates _ coded))

end TimeCode

/-! ### Instants in order -/

namespace Instant

/-- Instants are ordered by their seconds, and those of one second by their nanoseconds. -/
def orderKey (instant : Instant) : Int ×ₗ Nat :=
  toLex (instant.seconds, instant.nanoseconds)

theorem orderKey_injective : Function.Injective orderKey := by
  rintro ⟨seconds, nanoseconds⟩ ⟨otherSeconds, otherNanoseconds⟩ same
  simpa [orderKey] using same

instance : LinearOrder Instant :=
  LinearOrder.lift' orderKey orderKey_injective

theorem le_iff {first second : Instant} :
    first ≤ second ↔ first.seconds < second.seconds ∨
      first.seconds = second.seconds ∧ first.nanoseconds ≤ second.nanoseconds :=
  Prod.Lex.le_iff

/-- The seconds from 1970 to the instant, in full. -/
def elapsed (instant : Instant) : ℚ :=
  instant.seconds + instant.nanoseconds / 10 ^ 9

/-- Outside of leap seconds, what has elapsed tells the order. -/
theorem lt_of_elapsed_lt {first second : Instant} (plain : second.nanoseconds < 1000000000)
    (less : first.elapsed < second.elapsed) : first < second := by
  by_contra notBefore
  have short : (second.nanoseconds : ℚ) < 10 ^ 9 := by exact_mod_cast plain
  have forward : (0 : ℚ) ≤ first.nanoseconds := Nat.cast_nonneg _
  unfold elapsed at less
  rcases le_iff.mp (not_lt.mp notBefore) with earlier | ⟨sameSecond, fewer⟩
  · have passed : (second.seconds : ℚ) + 1 ≤ first.seconds := by exact_mod_cast earlier
    linarith
  · have fewer : (second.nanoseconds : ℚ) ≤ first.nanoseconds := by exact_mod_cast fewer
    rw [sameSecond] at less
    linarith

/-! ### Parts of a second -/

/-- The seconds from 1970 to the moment that a Time42 code stands for, in full. -/
def exactTime42 (code : Nat) : ℚ :=
  missionEpoch + code / 65536

/-- The instant is on the grid of 100 ns, and at the moment of a Time42 code or less than 100 ns
before it. -/
structure Renders (instant : Instant) (code : Nat) : Prop where
  plain : instant.nanoseconds < 1000000000
  grid : 100 ∣ instant.nanoseconds
  below : instant.elapsed ≤ exactTime42 code
  near : exactTime42 code < instant.elapsed + 1 / 10 ^ 7

theorem renders_ofTime42 {code : Nat} (counted : code < 2 ^ 48) : (ofTime42 code).Renders code := by
  -- the two roundings, of ticks to tenths of microseconds, in whole numbers
  have low : (ofTime42 code).nanoseconds * 65536 ≤ code % 65536 * 10 ^ 9 := by
    simp only [ofTime42, time42Ticks, ticksPerSecond]
    omega
  have high : code % 65536 * 10 ^ 9 < ((ofTime42 code).nanoseconds + 100) * 65536 := by
    simp only [ofTime42, time42Ticks, ticksPerSecond]
    omega
  have seconds : (ofTime42 code).seconds = missionEpoch + (code / 65536 : ℕ) := by
    simp only [ofTime42, time42Seconds, ticksPerSecond]
    omega
  have split : (code : ℚ) = 65536 * (code / 65536 : ℕ) + (code % 65536 : ℕ) := by
    exact_mod_cast (Nat.div_add_mod code 65536).symm
  have low : ((ofTime42 code).nanoseconds : ℚ) * 65536 ≤ (code % 65536 : ℕ) * 10 ^ 9 := by
    exact_mod_cast low
  have high : ((code % 65536 : ℕ) : ℚ) * 10 ^ 9 < ((ofTime42 code).nanoseconds + 100) * 65536 := by
    exact_mod_cast high
  have elapsed : (ofTime42 code).elapsed =
      missionEpoch + (code / 65536 : ℕ) + (ofTime42 code).nanoseconds / 10 ^ 9 := by
    rw [Instant.elapsed, seconds, Int.cast_add, Int.cast_natCast]
  constructor
  case plain => exact (ofTime42_inCodes code).2.2
  case grid => exact Nat.dvd_mul_left _ _
  case below =>
    rw [elapsed, exactTime42, split]
    linarith
  case near =>
    rw [elapsed, exactTime42, split]
    linarith

/-- Instants are in the order of the codes that they stand for, which are further apart than the
grid. -/
theorem Renders.lt {first second : Instant} {code other : Nat} (here : first.Renders code)
    (there : second.Renders other) (ascending : code < other) : first < second := by
  have tick : (code : ℚ) + 1 ≤ other := by exact_mod_cast ascending
  have below := here.below
  have near := there.near
  refine lt_of_elapsed_lt there.plain ?_
  unfold exactTime42 at below near
  linarith

/-- The nanoseconds of a Time44 code are counted in full. -/
theorem elapsed_ofTime44 (code : Nat) :
    (ofTime44 code).elapsed = (code / 2 ^ 32 : ℕ) + (code % 2 ^ 32 : ℕ) / 10 ^ 9 := by
  have whole : ((code % 2 ^ 32 : ℕ) : ℚ) =
      10 ^ 9 * (code % 2 ^ 32 / 10 ^ 9 : ℕ) + (code % 2 ^ 32 % 10 ^ 9 : ℕ) := by
    exact_mod_cast (Nat.div_add_mod (code % 2 ^ 32) (10 ^ 9)).symm
  have seconds : ((ofTime44 code).seconds : ℚ) =
      (code / 2 ^ 32 : ℕ) + (code % 2 ^ 32 / 10 ^ 9 : ℕ) := by
    norm_cast
  have nanoseconds : (ofTime44 code).nanoseconds = code % 2 ^ 32 % 10 ^ 9 := rfl
  rw [elapsed, seconds, nanoseconds, whole]
  linarith

end Instant

/-! ### Time42 and Time44 -/

/-- **The instants of Time42 codes are in order and all different, and less than 100 ns before the
moments of the codes; those of Time44 codes are exact.** -/
theorem TimeCode.date_faithful {dated : Instant → Bool}
    (dates : ∀ instant : Instant, instant.InCodes → dated instant) :
    (∀ first second : UInt64, first.toNat < second.toNat → second.toNat < 2 ^ 48 →
      ∃ earlier later, (time42 first).date dated = .ok (.ok earlier) ∧
        (time42 second).date dated = .ok (.ok later) ∧ earlier < later ∧
        earlier.Renders first.toNat ∧ later.Renders second.toNat) ∧
      ∀ code : UInt64, ∃ instant, (time44 code).date dated = .ok (.ok instant) ∧
        instant.elapsed = (code.toNat / 2 ^ 32 : ℕ) + (code.toNat % 2 ^ 32 : ℕ) / 10 ^ 9 ∧
        instant.nanoseconds < 10 ^ 9 := by
  constructor
  · intro first second ascending counted
    have here := Instant.renders_ofTime42 (Nat.lt_trans ascending counted)
    have there := Instant.renders_ofTime42 counted
    exact ⟨_, _, date_eq dates _, date_eq dates _, here.lt there ascending, here, there⟩
  · intro code
    exact ⟨_, date_eq dates _, Instant.elapsed_ofTime44 code.toNat,
      (Instant.ofTime44_inCodes code).2.2⟩

/-- The last tick of a second comes before the next second, and nanoseconds run over into it. -/
theorem TimeCode.date_faithful_lastTick :
    (∀ instant : Instant, instant.InCodes → instant.hasDate) ∧
      (∃ earlier later, (time42 0x3ffff).date Instant.hasDate = .ok (.ok earlier) ∧
        (time42 0x40000).date Instant.hasDate = .ok (.ok later) ∧ earlier < later ∧
        earlier.Renders 0x3ffff ∧ later.Renders 0x40000) ∧
      ∃ instant, (time44 0xaffffffff).date Instant.hasDate = .ok (.ok instant) ∧
        instant.elapsed = (10 : ℕ) + (4294967295 : ℕ) / 10 ^ 9 ∧ instant.nanoseconds < 10 ^ 9 := by
  have dates : ∀ instant : Instant, instant.InCodes → instant.hasDate :=
    fun _ coded => Instant.hasDate_of_inCodes coded
  obtain ⟨ticks, nanoseconds⟩ := TimeCode.date_faithful dates
  exact ⟨dates, ticks 0x3ffff 0x40000 (by decide) (by decide), nanoseconds 0xaffffffff⟩

end Downlink
