/-
**Instants as Time42 codes.**

The code of an instant counts whole seconds from the mission epoch, and in its last 16 bits the
ticks of the milliseconds. A millisecond is not a whole number of ticks, and in a leap second there
are more ticks than 16 bits can count.

* `Instant.toTime42_eq`: the code of an instant, in a leap second that of the second before;
* `Instant.checkedToTime42_eq`: a machine that works in words of 64 bits gets this code;
* `Instant.toTime42_le_iff`: the order of codes, and `Instant.stamps_ordered`: what a range of codes
  lets through;
* `Instant.ofTime42_toTime42`, `Instant.throughTime42_eq`: an instant that was kept as a code comes
  back a millisecond early, unless its milliseconds are whole ticks.
-/

import Downlink.Packet.Filter
import Downlink.Proofs.Time.Text

namespace Downlink

/-! ### Bits that run over -/

theorem or_one_of_odd {number : Nat} (odd : number % 2 = 1) : number ||| 1 = number := by
  have split : 2 ^ 1 * (number / 2) ||| 1 = number := by
    rw [← Nat.two_pow_add_eq_or_of_lt (by decide)]
    omega
  rw [← split, Nat.or_assoc, Nat.or_self]

/-- Where the lowest bit of a number is set, the bit that the bits below it run over into is
lost. -/
theorem shiftLeft_or_overrun {number bits rest : Nat} (odd : number % 2 = 1)
    (fits : rest < 2 ^ bits) :
    number <<< bits ||| (2 ^ bits + rest) = number <<< bits + rest := by
  -- the bit that is run over into is the lowest one of the number
  have overrun : 2 ^ bits + rest = 1 <<< bits ||| rest := by
    rw [← Nat.shiftLeft_add_eq_or_of_lt fits, Nat.one_shiftLeft]
  rw [overrun, ← Nat.or_assoc, ← Nat.shiftLeft_or_distrib, or_one_of_odd odd,
    Nat.shiftLeft_add_eq_or_of_lt fits]

/-- A number of 48 bits is shifted in a word without a loss. -/
theorem toNat_shiftLeft_or {number rest : Nat} (fits : number < 2 ^ 48) (restFits : rest < 2 ^ 64) :
    (UInt64.ofNat number <<< 16 ||| UInt64.ofNat rest).toNat = number <<< 16 ||| rest := by
  have shifted : number <<< 16 < 2 ^ 64 := by
    rw [Nat.shiftLeft_eq]
    omega
  have places : (16 : UInt64).toNat % 64 = 16 := rfl
  rw [UInt64.toNat_or, UInt64.toNat_shiftLeft, UInt64.toNat_ofNat', UInt64.toNat_ofNat', places,
    Nat.mod_eq_of_lt (Nat.lt_trans fits (by decide)), Nat.mod_eq_of_lt shifted,
    Nat.mod_eq_of_lt restFits]

namespace Instant

/-! ### The code of an instant -/

/-- The number of ticks in some milliseconds, cut off at the tick. -/
def millisecondTicks (milliseconds : Nat) : Nat :=
  milliseconds * ticksPerSecond / 1000

/-- Ticks are turned into tenths of microseconds, and these into milliseconds: what the ticks have
lost of a millisecond cannot be made up for. Eight times a second, nothing is lost. -/
theorem milliseconds_of_ticks (milliseconds : Nat) :
    millisecondTicks milliseconds * 10000000 / ticksPerSecond * 100 / 1000000 =
      if 125 ∣ milliseconds then milliseconds else milliseconds - 1 := by
  -- a millisecond is 65536 / 1000 = 8192 / 125 ticks
  have low : millisecondTicks milliseconds * 125 ≤ milliseconds * 8192 := by
    unfold millisecondTicks ticksPerSecond
    omega
  have high : milliseconds * 8192 < (millisecondTicks milliseconds + 1) * 125 := by
    unfold millisecondTicks ticksPerSecond
    omega
  generalize millisecondTicks milliseconds = ticks at low high
  unfold ticksPerSecond
  split
  case isTrue whole =>
    have exactly : ticks * 125 = milliseconds * 8192 := by omega
    omega
  case isFalse broken =>
    have cutOff : ticks * 125 < milliseconds * 8192 := by omega
    have near : (milliseconds - 1) * 8192 ≤ ticks * 125 := by omega
    omega

theorem millisecondTicks_lt {milliseconds : Nat} (inSecond : milliseconds < 1000) :
    millisecondTicks milliseconds < ticksPerSecond := by
  unfold millisecondTicks ticksPerSecond
  omega

/-- A millisecond is many ticks. -/
theorem millisecondTicks_le_iff {first second : Nat} :
    millisecondTicks first ≤ millisecondTicks second ↔ first ≤ second := by
  unfold millisecondTicks ticksPerSecond
  omega

variable {instant first second : Instant}

/-- The instant lies in a leap second. -/
def IsLeap (instant : Instant) : Prop :=
  1000000000 ≤ instant.nanoseconds

/-- A leap second follows the last second of a minute. -/
theorem isLeap_cases (dated : instant.hasDate) :
    instant.nanoseconds < 1000000000 ∨
      instant.IsLeap ∧ instant.nanoseconds < 2000000000 ∧ instant.seconds % 60 = 59 := by
  unfold hasDate at dated
  obtain ⟨-, -, short, plain | minuteEnd⟩ := of_decide_eq_true dated
  · exact .inl plain
  · exact (Nat.lt_or_ge _ _).imp_right fun leap => ⟨leap, short, minuteEnd⟩

theorem toTime42_early (early : instant.seconds < missionEpoch) : instant.toTime42 = 0 :=
  if_pos early

theorem toTime42_counted (counted : missionEpoch ≤ instant.seconds) :
    instant.toTime42 =
      (instant.seconds - missionEpoch).toNat <<< 16 ||| millisecondTicks instant.milliseconds :=
  if_neg (Int.not_lt.mpr counted)

/-- The code of an instant counts its seconds and the ticks of its milliseconds. In a leap second,
whose number is odd, the bit that the ticks run over into is set anyway. -/
theorem toTime42_eq (dated : instant.hasDate) (counted : missionEpoch ≤ instant.seconds) :
    instant.toTime42 =
      (instant.seconds - missionEpoch).toNat <<< 16 +
        millisecondTicks (instant.milliseconds % 1000) := by
  rw [toTime42_counted counted]
  have inSecond : instant.milliseconds % 1000 < 1000 := Nat.mod_lt _ (by decide)
  rcases isLeap_cases dated with plain | ⟨leap, short, minuteEnd⟩
  · rw [Nat.mod_eq_of_lt (milliseconds_lt plain),
      Nat.shiftLeft_add_eq_or_of_lt (millisecondTicks_lt (milliseconds_lt plain))]
  · have odd : (instant.seconds - missionEpoch).toNat % 2 = 1 := by
      unfold missionEpoch at *
      omega
    have overrun : millisecondTicks instant.milliseconds =
        2 ^ 16 + millisecondTicks (instant.milliseconds % 1000) := by
      unfold IsLeap at leap
      unfold millisecondTicks milliseconds ticksPerSecond
      omega
    rw [overrun, shiftLeft_or_overrun odd (millisecondTicks_lt inSecond)]

/-! ### A machine with 64 bits -/

/-- The code of an instant, worked out in a word: a difference of signed words, a product of words,
and bits that are shifted out of a word are lost. -/
def checkedToTime42 (instant : Instant) : Except Breach UInt64 := do
  let seconds := instant.seconds - missionEpoch
  Breach.overflow.ensure (-secondBound ≤ seconds ∧ seconds < secondBound)
  if seconds < 0 then return 0
  else
    Breach.overflow.ensure (instant.milliseconds * ticksPerSecond < sizeBound)
    return UInt64.ofNat seconds.toNat <<< 16 |||
      UInt64.ofNat (millisecondTicks instant.milliseconds)

/-- The machine gets the code of every instant that has a date. -/
theorem checkedToTime42_eq (dated : instant.hasDate) :
    ∃ code : UInt64, instant.checkedToTime42 = .ok code ∧ code.toNat = instant.toTime42 := by
  have bound := sizeBound_eq
  obtain ⟨low, high, short, -⟩ := of_decide_eq_true dated
  have word : -secondBound ≤ instant.seconds - missionEpoch ∧
      instant.seconds - missionEpoch < secondBound := by
    unfold secondBound missionEpoch
    omega
  have product : instant.milliseconds * ticksPerSecond < sizeBound := by
    unfold milliseconds ticksPerSecond
    omega
  rw [checkedToTime42, Breach.ensure_bind word]
  by_cases early : instant.seconds < missionEpoch
  case pos =>
    rw [if_pos (Int.sub_neg_of_lt early), toTime42_early early]
    exact ⟨0, rfl, rfl⟩
  have counted := Int.not_lt.mp early
  have notNegative : ¬ instant.seconds - missionEpoch < 0 := by omega
  rw [if_neg notNegative, Breach.ensure_bind product, toTime42_counted counted]
  have seconds : (instant.seconds - missionEpoch).toNat < 2 ^ 48 := by
    unfold missionEpoch
    omega
  have ticks : millisecondTicks instant.milliseconds < 2 ^ 64 :=
    Nat.lt_of_le_of_lt (Nat.div_le_self _ _) product
  exact ⟨_, rfl, toNat_shiftLeft_or seconds ticks⟩

/-! ### The order of codes -/

/-- An instant of a leap second is later than one of the second before, but not as far into its
second, in milliseconds. -/
structure FallsBack (first second : Instant) : Prop where
  counted : missionEpoch ≤ first.seconds
  sameSecond : first.seconds = second.seconds
  plain : ¬ first.IsLeap
  leap : second.IsLeap
  behind : second.milliseconds < first.milliseconds + 1000

/-- In one second, an instant falls back behind an earlier one when its milliseconds start anew. -/
theorem fallsBack_iff (firstDated : first.hasDate) (secondDated : second.hasDate)
    (sameSecond : first.seconds = second.seconds) (fewer : first.nanoseconds ≤ second.nanoseconds)
    (counted : missionEpoch ≤ first.seconds) :
    FallsBack first second ↔ second.milliseconds % 1000 < first.milliseconds % 1000 := by
  have firstShort := isLeap_cases firstDated
  have secondShort := isLeap_cases secondDated
  unfold IsLeap at firstShort secondShort
  constructor
  · rintro ⟨-, -, plain, leap, behind⟩
    unfold IsLeap at plain leap
    unfold milliseconds at behind ⊢
    omega
  · intro behind
    unfold milliseconds at behind
    refine ⟨counted, sameSecond, ?_, ?_, ?_⟩
    all_goals simp only [IsLeap, milliseconds]
    all_goals omega

/-- Codes are in the order of instants, unless the later one falls back. -/
theorem toTime42_le_iff (firstDated : first.hasDate) (secondDated : second.hasDate)
    (ordered : first ≤ second) : first.toTime42 ≤ second.toTime42 ↔ ¬ FallsBack first second := by
  by_cases early : first.seconds < missionEpoch
  case pos =>
    rw [toTime42_early early]
    exact iff_of_true (Nat.zero_le _) fun back => absurd back.counted (Int.not_le.mpr early)
  have counted := Int.not_lt.mp early
  rcases le_iff.mp ordered with earlier | ⟨sameSecond, fewer⟩
  · have ticks : millisecondTicks (first.milliseconds % 1000) < ticksPerSecond :=
      millisecondTicks_lt (Nat.mod_lt _ (by decide))
    rw [toTime42_eq firstDated counted,
      toTime42_eq secondDated (Int.le_trans counted (Int.le_of_lt earlier)), Nat.shiftLeft_eq,
      Nat.shiftLeft_eq]
    unfold ticksPerSecond at ticks
    exact iff_of_true (by omega) fun back => absurd back.sameSecond (Int.ne_of_lt earlier)
  · rw [toTime42_eq firstDated counted, toTime42_eq secondDated (sameSecond ▸ counted), sameSecond,
      Nat.add_le_add_iff_left, millisecondTicks_le_iff,
      fallsBack_iff firstDated secondDated sameSecond fewer counted, Nat.not_lt]

/-- **Time42 codes are in the order of instants, and the range of the codes of two instants lets
every time between them through, but for the times that fall back in a leap second.** -/
theorem stamps_ordered (firstDated : first.hasDate) (secondDated : second.hasDate)
    (ordered : first ≤ second) :
    ∃ code later : UInt64, first.checkedToTime42 = .ok code ∧
      second.checkedToTime42 = .ok later ∧ (code ≤ later ↔ ¬ FallsBack first second) ∧
      ∀ middle : Instant, middle.hasDate → first ≤ middle → middle ≤ second →
        ∃ stamp : UInt64, middle.checkedToTime42 = .ok stamp ∧
          ∀ view : PacketView, view.time42 = stamp.toNat →
            (PacketFilter.accepts { start := code.toNat, stop := later.toNat } view ↔
              ¬ FallsBack first middle ∧ ¬ FallsBack middle second) := by
  obtain ⟨code, done, codeEq⟩ := checkedToTime42_eq firstDated
  obtain ⟨later, laterDone, laterEq⟩ := checkedToTime42_eq secondDated
  refine ⟨code, later, done, laterDone, ?_, ?_⟩
  · rw [UInt64.le_iff_toNat_le, codeEq, laterEq]
    exact toTime42_le_iff firstDated secondDated ordered
  · intro middle middleDated before after
    obtain ⟨stamp, stampDone, stampEq⟩ := checkedToTime42_eq middleDated
    refine ⟨stamp, stampDone, ?_⟩
    intro view stamped
    rw [← toTime42_le_iff firstDated middleDated before,
      ← toTime42_le_iff middleDated secondDated after, ← codeEq, ← laterEq, ← stampEq, ← stamped]
    simp [PacketFilter.accepts]

/-- The last second of 2016, which a leap second follows. -/
def yearEnd (nanoseconds : Nat) : Instant :=
  ⟨1483228799, nanoseconds⟩

/-- The middle of the leap second is between the start of the second before and the new year, and
so is its code. -/
theorem stamps_ordered_yearEnd :
    (yearEnd 0).hasDate ∧ (⟨1483228800, 0⟩ : Instant).hasDate ∧ yearEnd 0 ≤ ⟨1483228800, 0⟩ ∧
      ∃ code later stamp : UInt64, (yearEnd 0).checkedToTime42 = .ok code ∧
        checkedToTime42 ⟨1483228800, 0⟩ = .ok later ∧ code ≤ later ∧
        (yearEnd 1500000000).checkedToTime42 = .ok stamp ∧
        ∀ view : PacketView, view.time42 = stamp.toNat →
          PacketFilter.accepts { start := code.toNat, stop := later.toNat } view := by
  have dated : (yearEnd 0).hasDate := by decide
  have laterDated : (⟨1483228800, 0⟩ : Instant).hasDate := by decide
  have before : yearEnd 0 ≤ yearEnd 1500000000 := le_iff.mpr (.inr ⟨rfl, by decide⟩)
  have after : yearEnd 1500000000 ≤ ⟨1483228800, 0⟩ := le_iff.mpr (.inl (by decide))
  obtain ⟨code, later, done, laterDone, compared, between⟩ :=
    stamps_ordered dated laterDated (before.trans after)
  obtain ⟨stamp, stampDone, accepted⟩ := between (yearEnd 1500000000) (by decide) before after
  refine ⟨dated, laterDated, before.trans after, code, later, stamp, done, laterDone,
    compared.mpr ?_, stampDone, fun view stamped => (accepted view stamped).mpr ⟨?_, ?_⟩⟩
  · exact fun back => absurd back.sameSecond (by decide)
  · exact fun back => absurd back.behind (by decide)
  · exact fun back => absurd back.sameSecond (by decide)

/-- The start of the leap second has a lesser code than the end of the second before. -/
theorem not_stamps_ordered_yearEnd :
    (yearEnd 999000000).hasDate ∧ (yearEnd 1000000000).hasDate ∧
      yearEnd 999000000 ≤ yearEnd 1000000000 ∧
      ∃ code later : UInt64, (yearEnd 999000000).checkedToTime42 = .ok code ∧
        (yearEnd 1000000000).checkedToTime42 = .ok later ∧ ¬ code ≤ later := by
  have dated : (yearEnd 999000000).hasDate := by decide
  have laterDated : (yearEnd 1000000000).hasDate := by decide
  obtain ⟨code, done, codeEq⟩ := checkedToTime42_eq dated
  obtain ⟨later, laterDone, laterEq⟩ := checkedToTime42_eq laterDated
  refine ⟨dated, laterDated, le_iff.mpr (.inr ⟨rfl, by decide⟩), code, later, done, laterDone, ?_⟩
  rw [UInt64.le_iff_toNat_le, codeEq, laterEq]
  decide

/-! ### There and back -/

/-- What comes back of an instant that is kept as a Time42 code. -/
def throughTime42 (dated : Instant → Bool) (instant : Instant) :
    Except Breach (Except DatingError Instant) := do
  (TimeCode.time42 (← instant.checkedToTime42)).date dated

/-- An instant comes back in its second and its millisecond, and with its text. -/
def KeepsMillisecond (dated : Instant → Bool) (instant : Instant) : Prop :=
  ∃ back, instant.throughTime42 dated = .ok (.ok back) ∧ back.seconds = instant.seconds ∧
    back.milliseconds = instant.milliseconds ∧ back.itos = instant.itos

/-- What comes back is the instant of the code. -/
theorem throughTime42_of_hasDate {dated : Instant → Bool}
    (dates : ∀ instant : Instant, instant.InCodes → dated instant) (known : instant.hasDate) :
    instant.throughTime42 dated = .ok (.ok (ofTime42 instant.toTime42)) := by
  obtain ⟨code, done, codeEq⟩ := checkedToTime42_eq known
  rw [throughTime42, done, ok_bind, TimeCode.date_eq dates, ← codeEq]
  rfl

/-- The instant of the code of an instant is in its second, in the time that codes count. -/
theorem ofTime42_toTime42 (start : missionEpoch ≤ instant.seconds)
    (stop : instant.seconds < missionEpoch + 2 ^ 32) (plain : instant.nanoseconds < 1000000000) :
    (ofTime42 instant.toTime42).seconds = instant.seconds ∧
      (ofTime42 instant.toTime42).milliseconds =
        if 125 ∣ instant.milliseconds then instant.milliseconds else instant.milliseconds - 1 := by
  have below := millisecondTicks_lt (milliseconds_lt plain)
  have code : instant.toTime42 = (instant.seconds - missionEpoch).toNat * ticksPerSecond +
      millisecondTicks instant.milliseconds := by
    rw [toTime42_counted start, ← Nat.shiftLeft_add_eq_or_of_lt below, Nat.shiftLeft_eq]
    rfl
  have ticks : time42Ticks instant.toTime42 = millisecondTicks instant.milliseconds := by
    rw [time42Ticks, code, Nat.mul_add_mod_self_right, Nat.mod_eq_of_lt below]
  have seconds : time42Seconds instant.toTime42 = (instant.seconds - missionEpoch).toNat := by
    rw [time42Seconds, code]
    unfold ticksPerSecond at *
    omega
  constructor
  · show missionEpoch + (time42Seconds instant.toTime42 : Int) = instant.seconds
    rw [seconds]
    omega
  · rw [← milliseconds_of_ticks, ← ticks]
    rfl

/-- **An instant that is kept as a Time42 code comes back in its second, and a millisecond early
unless its milliseconds are whole ticks**: then, and only then, it keeps its millisecond and its
text. -/
theorem throughTime42_eq {dated : Instant → Bool}
    (dates : ∀ instant : Instant, instant.InCodes → dated instant)
    (start : missionEpoch ≤ instant.seconds) (stop : instant.seconds < missionEpoch + 2 ^ 32)
    (plain : instant.nanoseconds < 1000000000) :
    (instant.KeepsMillisecond dated ↔ 125 ∣ instant.milliseconds) ∧
      ∃ back, instant.throughTime42 dated = .ok (.ok back) ∧ back.seconds = instant.seconds ∧
        back.milliseconds =
          (if 125 ∣ instant.milliseconds then instant.milliseconds else instant.milliseconds - 1) ∧
        (back.itos = instant.itos ↔ 125 ∣ instant.milliseconds) := by
  have coded : instant.InCodes := ⟨Int.le_trans (by decide) start, stop, plain⟩
  have through := throughTime42_of_hasDate dates (hasDate_of_inCodes coded)
  obtain ⟨sameSecond, cutOff⟩ := ofTime42_toTime42 start stop plain
  have texts := itos_eq_iff sameSecond (ofTime42_inCodes _).2.2 plain
  have kept : (ofTime42 instant.toTime42).milliseconds = instant.milliseconds ↔
      125 ∣ instant.milliseconds := by
    rw [cutOff]
    split <;> omega
  refine ⟨⟨?_, ?_⟩, _, through, sameSecond, cutOff, texts.trans kept⟩
  · rintro ⟨back, done, -, same, -⟩
    obtain rfl := Except.ok.inj (Except.ok.inj (through.symm.trans done))
    exact kept.mp same
  · intro whole
    exact ⟨_, through, sameSecond, kept.mpr whole, texts.mpr (kept.mpr whole)⟩

/-- The last millisecond that codes count. -/
def lastMillisecond : Instant :=
  ⟨missionEpoch + 0xffffffff, 999999999⟩

theorem throughTime42_lastMillisecond :
    (∀ instant : Instant, instant.InCodes → instant.hasDate) ∧
      missionEpoch ≤ lastMillisecond.seconds ∧
      lastMillisecond.seconds < missionEpoch + 2 ^ 32 ∧
      lastMillisecond.nanoseconds < 1000000000 ∧
      ∃ back, lastMillisecond.throughTime42 hasDate = .ok (.ok back) ∧
        back.seconds = lastMillisecond.seconds ∧ back.milliseconds = 998 ∧
        back.itos ≠ lastMillisecond.itos := by
  have dates : ∀ instant : Instant, instant.InCodes → instant.hasDate :=
    fun _ coded => hasDate_of_inCodes coded
  have start : missionEpoch ≤ lastMillisecond.seconds := by decide
  have stop : lastMillisecond.seconds < missionEpoch + 2 ^ 32 := by decide
  have plain : lastMillisecond.nanoseconds < 1000000000 := by decide
  obtain ⟨-, back, through, sameSecond, cutOff, texts⟩ := throughTime42_eq dates start stop plain
  refine ⟨dates, start, stop, plain, back, through, sameSecond, cutOff, ?_⟩
  intro same
  exact absurd (texts.mp same) (by decide)

/-- The first millisecond of the mission is lost on the way. -/
theorem not_keepsMillisecond_first :
    (⟨missionEpoch, 1000000⟩ : Instant).hasDate ∧
      ¬ KeepsMillisecond hasDate ⟨missionEpoch, 1000000⟩ := by
  have dated : (⟨missionEpoch, 1000000⟩ : Instant).hasDate := by decide
  refine ⟨dated, ?_⟩
  rintro ⟨back, through, -, same, -⟩
  have early := throughTime42_of_hasDate (fun _ coded => hasDate_of_inCodes coded) dated
  obtain rfl := Except.ok.inj (Except.ok.inj (early.symm.trans through))
  exact absurd same (by decide)

end Instant

end Downlink
