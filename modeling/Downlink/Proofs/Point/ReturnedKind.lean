/-
**What a conversion gives, and when it gives nothing.**

A conversion that computes with numbers refuses texts and bytes. Beyond that a polynomial may lack
coefficients and a map a word, and every time code is of one type (`Conversion.Refuses`). Whatever is
not refused has a value of the kind that the conversion declares, but for the 0 that stands for a
missing word (`Conversion.FillsIn`).

* `Conversion.convert_of_refuses`, `Conversion.refuses_of_convert`: what is not converted, and why;
* `Conversion.convert_of_fillsIn`, `Conversion.kind_of_convert`: what comes of the rest;
* `Conversion.applyDated`: a conversion where not every instant has a date, and
  `Conversion.applyDated_eq`: the same, as long as those of time codes have one;
* `Conversion.applyDated_spec`: all of this taken together.
-/

import Downlink.Point.Conversion
import Downlink.Proofs.Checks

namespace Downlink

/-! ### Numbers -/

namespace RawValue

/-- Why the value stands for no number. -/
def numericFault? : RawValue → Option ConversionFault
  | text content => some (.textNotNumeric content)
  | bytes content => some (.bytesNotNumeric content)
  | _ => none

variable {raw : RawValue} {fault : ConversionFault}

theorem toFloat_error_iff : raw.toFloat = .error fault ↔ raw.numericFault? = some fault := by
  cases raw <;> simp [toFloat, numericFault?]

theorem toInt64_error_iff : raw.toInt64 = .error fault ↔ raw.numericFault? = some fault := by
  cases raw <;> simp [toInt64, numericFault?]

theorem exists_toFloat (numeric : raw.isNumeric) : ∃ number, raw.toFloat = .ok number :=
  exists_of_isOk (raw.isOk_toFloat.trans numeric)

theorem exists_toInt64 (numeric : raw.isNumeric) : ∃ index, raw.toInt64 = .ok index :=
  exists_of_isOk (raw.isOk_toInt64.trans numeric)

theorem isNumeric_of_toFloat {number : Float} (read : raw.toFloat = .ok number) :
    raw.isNumeric := by
  rw [← isOk_toFloat, read]
  rfl

end RawValue

/-! ### Descriptions -/

/-- A polynomial of an order that is evaluated fails exactly when it has too few coefficients. -/
theorem Polynomial.evaluate_error_iff {polynomial : Polynomial} {number : Float}
    {fault : ConversionFault} :
    polynomial.evaluate number = .error fault ↔
      polynomial.order ≤ greatestOrder ∧ polynomial.coefficients.length ≤ polynomial.order ∧
        fault = .missingCoefficients polynomial.order polynomial.coefficients.length := by
  unfold evaluate
  split
  case isTrue high => simp [Nat.not_le_of_lt high]
  case isFalse low =>
    split
    case isTrue few => simp [Nat.le_of_not_lt low, few, eq_comm]
    case isFalse enough => simp [enough]

namespace DiscreteMap

/-- The map has a word for an integer. -/
def Lists (map : DiscreteMap) (index : Int64) : Prop :=
  ∃ entry ∈ map.enumeration, entry.value = index

instance (map : DiscreteMap) (index : Int64) : Decidable (map.Lists index) :=
  inferInstanceAs (Decidable (∃ entry ∈ _, _))

variable {map : DiscreteMap} {index : Int64}

/-- The first entry for an integer has the word that is looked up for it. -/
theorem find?_enumeration (map : DiscreteMap) (index : Int64) :
    map.enumeration.find? (·.value == index) = (map.get? index).map (EnumEntry.mk index) := by
  have entries : map.enumeration =
      (map.indices.zip map.values).map fun pair => ⟨pair.1, pair.2⟩ := by
    rw [enumeration, List.zip, List.map_zipWith]
  rw [entries, List.find?_map, get?_eq_find?, Option.map_map]
  refine Option.map_congr fun pair found => ?_
  have own : pair.1 = index := by simpa using List.find?_some found
  exact congrArg (EnumEntry.mk · pair.2) own

theorem get?_eq_none_iff : map.get? index = none ↔ ¬ map.Lists index := by
  have searched : map.get? index = none ↔ map.enumeration.find? (·.value == index) = none := by
    rw [find?_enumeration, Option.map_eq_none_iff]
  rw [searched, List.find?_eq_none, Lists]
  simp only [beq_iff_eq, not_exists, not_and]

/-- A map fails exactly for the integers other than 0 that it has no word for. -/
theorem valueOf_error_iff {fault : ConversionFault} :
    map.valueOf index = .error fault ↔
      index ≠ 0 ∧ ¬ map.Lists index ∧ fault = .unmapped index.toInt := by
  rw [← get?_eq_none_iff]
  unfold valueOf
  split
  case h_1 word listed => simp [listed]
  case h_2 unlisted =>
    split
    case isTrue zero => simp [zero]
    case isFalse nonzero => simp [nonzero, unlisted, eq_comm]

end DiscreteMap

/-! ### What is refused -/

namespace Conversion

/-- The conversion computes with a number. -/
def takesNumber : Conversion → Bool
  | polynomial _ | discreteList _ | discreteMap _ | discreteRanges _ | time42Seconds | time42Ticks
  | ticksToFraction => true
  | _ => false

/-- The conversion has no value for a raw value, because of a fault. -/
inductive Refuses : Conversion → RawValue → ConversionFault → Prop
  /-- There is no number to compute with. -/
  | notNumeric {conversion : Conversion} {raw : RawValue} {fault : ConversionFault}
      (takes : conversion.takesNumber) (noNumber : raw.numericFault? = some fault) :
      Refuses conversion raw fault
  /-- A polynomial has no more coefficients than its order says. -/
  | lacksCoefficients {definition : Polynomial} {raw : RawValue} (numeric : raw.isNumeric)
      (evaluated : definition.order ≤ Polynomial.greatestOrder)
      (few : definition.coefficients.length ≤ definition.order) :
      Refuses (polynomial definition) raw
        (.missingCoefficients definition.order definition.coefficients.length)
  /-- A map has no word for an integer other than 0. -/
  | lacksWord {definition : DiscreteMap} {raw : RawValue} {index : Int64}
      (read : raw.toInt64 = .ok index) (nonzero : index ≠ 0)
      (unlisted : ¬ definition.Lists index) :
      Refuses (discreteMap definition) raw (.unmapped index.toInt)
  /-- A Time40 code is a natural number of 32 bits. -/
  | notShortTime {raw : RawValue} (other : ∀ code, raw ≠ .uint32 code) :
      Refuses time40 raw .wrongTimeType
  /-- A Time42 or a Time44 code is a natural number of 64 bits. -/
  | notLongTime {conversion : Conversion} {raw : RawValue}
      (long : conversion = time42 ∨ conversion = time44) (other : ∀ code, raw ≠ .uint64 code) :
      Refuses conversion raw .wrongTimeType

variable {conversion : Conversion} {raw : RawValue} {fault : ConversionFault}
  {value : EngineeringValue}

theorem convert_of_numericFault? (takes : conversion.takesNumber)
    (noNumber : raw.numericFault? = some fault) : conversion.convert raw = .error fault := by
  cases conversion
  case polynomial | ticksToFraction =>
    rw [convert, RawValue.toFloat_error_iff.mpr noNumber]
    rfl
  case discreteList | discreteMap | discreteRanges | time42Seconds | time42Ticks =>
    rw [convert, RawValue.toInt64_error_iff.mpr noNumber]
    rfl
  all_goals cases takes

/-- What is refused is not converted. -/
theorem convert_of_refuses (refused : conversion.Refuses raw fault) :
    conversion.convert raw = .error fault := by
  cases refused with
  | notNumeric takes noNumber => exact convert_of_numericFault? takes noNumber
  | @lacksCoefficients definition _ numeric evaluated few =>
    obtain ⟨number, read⟩ := RawValue.exists_toFloat numeric
    have failed : definition.evaluate number = .error _ :=
      Polynomial.evaluate_error_iff.mpr ⟨evaluated, few, rfl⟩
    rw [convert, read]
    show (do return EngineeringValue.number (← definition.evaluate number)) = _
    rw [failed]
    rfl
  | lacksWord read nonzero unlisted =>
    rw [convert, read]
    exact DiscreteMap.valueOf_error_iff.mpr ⟨nonzero, unlisted, rfl⟩
  | notShortTime other =>
    cases raw
    case uint32 code => exact absurd rfl (other code)
    all_goals rfl
  | notLongTime long other =>
    cases raw
    case uint64 code => exact absurd rfl (other code)
    all_goals rcases long with rfl | rfl <;> rfl

/-- What is not converted is refused. -/
theorem refuses_of_convert (failed : conversion.convert raw = .error fault) :
    conversion.Refuses raw fault := by
  cases conversion with
  | identity | image | spectrum => cases failed
  | polynomial definition =>
    -- The number is asked for before the order and the coefficients are looked at.
    rcases bind_error_cases failed with noNumber | ⟨number, read, unevaluated⟩
    · exact .notNumeric rfl (RawValue.toFloat_error_iff.mp noNumber)
    · obtain ⟨evaluated, few, rfl⟩ := Polynomial.evaluate_error_iff.mp (bind_pure_error unevaluated)
      exact .lacksCoefficients (RawValue.isNumeric_of_toFloat read) evaluated few
  | discreteMap definition =>
    rcases bind_error_cases failed with noInteger | ⟨index, read, unmapped⟩
    · exact .notNumeric rfl (RawValue.toInt64_error_iff.mp noInteger)
    · obtain ⟨nonzero, unlisted, rfl⟩ := DiscreteMap.valueOf_error_iff.mp unmapped
      exact .lacksWord read nonzero unlisted
  | discreteList | discreteRanges | time42Seconds | time42Ticks =>
    exact .notNumeric rfl (RawValue.toInt64_error_iff.mp (bind_pure_error failed))
  | ticksToFraction =>
    exact .notNumeric rfl (RawValue.toFloat_error_iff.mp (bind_pure_error failed))
  | time40 =>
    cases raw
    case uint32 => cases failed
    all_goals
      obtain rfl := Except.error.inj failed
      exact .notShortTime fun _ => nofun
  | time42 | time44 =>
    cases raw
    case uint64 => cases failed
    all_goals
      obtain rfl := Except.error.inj failed
      exact .notLongTime (by simp) fun _ => nofun

/-! ### What the rest is converted to -/

/-- A map without a word for 0 is given a 0. -/
def FillsIn (conversion : Conversion) (raw : RawValue) : Prop :=
  ∃ map : DiscreteMap, conversion = discreteMap map ∧ raw.toInt64 = .ok 0 ∧ ¬ map.Lists 0

theorem convert_of_fillsIn (fills : conversion.FillsIn raw) :
    conversion.convert raw = .ok (.number 0) := by
  obtain ⟨map, rfl, read, unlisted⟩ := fills
  rw [convert, read]
  show map.valueOf 0 = _
  rw [DiscreteMap.valueOf, DiscreteMap.get?_eq_none_iff.mpr unlisted]
  rfl

/-- A value is of the kind that the conversion declares. -/
theorem kind_of_convert (converted : conversion.convert raw = .ok value)
    (worded : ¬ conversion.FillsIn raw) : value.kind = conversion.returnedKind := by
  cases conversion with
  | identity | image | spectrum =>
    obtain rfl := Except.ok.inj converted
    rfl
  | polynomial =>
    obtain ⟨number, -, evaluated⟩ := bind_ok_cases converted
    obtain ⟨sum, -, made⟩ := bind_ok_cases evaluated
    obtain rfl := Except.ok.inj made
    rfl
  | discreteList | discreteRanges | time42Seconds | time42Ticks | ticksToFraction =>
    obtain ⟨number, -, made⟩ := bind_ok_cases converted
    obtain rfl := Except.ok.inj made
    rfl
  | discreteMap map =>
    obtain ⟨index, read, given⟩ := bind_ok_cases converted
    unfold DiscreteMap.valueOf at given
    split at given
    case h_1 word =>
      obtain rfl := Except.ok.inj given
      rfl
    case h_2 missing =>
      split at given
      case isTrue zero =>
        subst zero
        exact absurd ⟨map, rfl, read, DiscreteMap.get?_eq_none_iff.mp missing⟩ worded
      case isFalse => cases given
  | time40 =>
    cases raw
    case uint32 =>
      obtain rfl := Except.ok.inj converted
      rfl
    all_goals cases converted
  | time42 | time44 =>
    cases raw
    case uint64 =>
      obtain rfl := Except.ok.inj converted
      rfl
    all_goals cases converted

end Conversion

/-! ### Instants that have a date -/

namespace Instant

/-- From 1970 on, an instant of the seconds that a time code can count. -/
def InCodes (instant : Instant) : Prop :=
  0 ≤ instant.seconds ∧ instant.seconds < missionEpoch + 0x100000000 ∧
    instant.nanoseconds < 1000000000

theorem ofTime40_inCodes (code : UInt32) : (ofTime40 code.toNat).InCodes := by
  have range := code.toNat_lt
  simp only [InCodes, ofTime40, missionEpoch]
  omega

theorem ofTime42_inCodes (code : Nat) : (ofTime42 code).InCodes := by
  have ticks : time42Ticks code < 65536 := Nat.mod_lt _ (by decide)
  simp only [InCodes, ofTime42, missionEpoch, time42Seconds, ticksPerSecond]
  omega

theorem ofTime44_inCodes (code : UInt64) : (ofTime44 code.toNat).InCodes := by
  have range := code.toNat_lt
  simp only [InCodes, ofTime44, missionEpoch]
  omega

/-- Whether an instant has a date in the years from -262143 to 262142. Nanoseconds run on past a
second only at the end of a minute. -/
def hasDate (instant : Instant) : Bool :=
  decide (-8334601228800 ≤ instant.seconds ∧ instant.seconds ≤ 8210266876799 ∧
    instant.nanoseconds < 2000000000 ∧
      (instant.nanoseconds < 1000000000 ∨ instant.seconds % 60 = 59))

theorem hasDate_of_inCodes {instant : Instant} (coded : instant.InCodes) : instant.hasDate := by
  simp only [InCodes, missionEpoch] at coded
  simp only [hasDate, decide_eq_true_eq]
  omega

end Instant

/-- Why there is no value where not every instant has a date. -/
inductive DatingError
  | other (error : Error)
  /-- The instant of a time code has no date. -/
  | undated (code : Nat)

namespace Conversion

/-- The text of the instant of a time code, if the instant has a date. -/
def datedText (dated : Instant → Bool) (code : Nat) (instant : Instant) :
    Except DatingError EngineeringValue :=
  if dated instant then .ok (.text instant.itos) else .error (.undated code)

/-- The engineering value of a raw value, where only some instants have a date. -/
def applyDated (dated : Instant → Bool) : Conversion → RawValue →
    Except DatingError EngineeringValue
  | time40, .uint32 code => datedText dated code.toNat (.ofTime40 code.toNat)
  | time42, .uint64 code => datedText dated code.toNat (.ofTime42 code.toNat)
  | time44, .uint64 code => datedText dated code.toNat (.ofTime44 code.toNat)
  | conversion, raw => (conversion.apply raw).mapError .other

variable {dated : Instant → Bool}

/-- Where all instants of time codes have a date, it does not matter which others do. -/
theorem applyDated_eq (dates : ∀ instant : Instant, instant.InCodes → dated instant)
    (conversion : Conversion) (raw : RawValue) :
    conversion.applyDated dated raw = (conversion.apply raw).mapError .other := by
  unfold applyDated
  split
  case h_1 code => exact if_pos (dates _ (Instant.ofTime40_inCodes code))
  case h_2 code => exact if_pos (dates _ (Instant.ofTime42_inCodes code.toNat))
  case h_3 code => exact if_pos (dates _ (Instant.ofTime44_inCodes code))
  case h_4 => rfl

/-- **A conversion fails exactly for the raw values that it refuses, and tells why; what comes of any
other one is of the kind that it declares**, but for the 0 of a map that has no word for it. -/
theorem applyDated_spec (dates : ∀ instant : Instant, instant.InCodes → dated instant)
    (conversion : Conversion) (raw : RawValue) :
    conversion.applyDated dated raw = (conversion.apply raw).mapError .other ∧
      (∀ error, conversion.applyDated dated raw = .error error ↔
        ∃ fault, conversion.Refuses raw fault ∧
          error = .other (.conversionFailed conversion.name fault)) ∧
      ((∀ fault, ¬ conversion.Refuses raw fault) →
        ∃ value, conversion.applyDated dated raw = .ok value ∧
          (conversion.FillsIn raw → value = .number 0) ∧
          (¬ conversion.FillsIn raw → value.kind = conversion.returnedKind)) := by
  rw [applyDated_eq dates, apply]
  refine ⟨rfl, ?_, ?_⟩
  · intro error
    constructor
    · intro failed
      cases converted : conversion.convert raw with
      | error fault =>
        rw [converted] at failed
        obtain rfl := Except.error.inj failed
        exact ⟨fault, refuses_of_convert converted, rfl⟩
      | ok value =>
        rw [converted] at failed
        cases failed
    · rintro ⟨fault, refused, rfl⟩
      rw [convert_of_refuses refused]
      rfl
  · intro accepted
    cases converted : conversion.convert raw with
    | error fault => exact absurd (refuses_of_convert converted) (accepted fault)
    | ok value =>
      refine ⟨value, rfl, ?_, kind_of_convert converted⟩
      intro fills
      exact Except.ok.inj (converted.symm.trans (convert_of_fillsIn fills))

/-- Words for 1 and 2. -/
def modes : DiscreteMap :=
  { name := "mode", indices := [1, 2], values := ["ON", "OFF"] }

/-- A map has no value for an integer that it has no word for, but for 0. -/
theorem applyDated_modes :
    (∀ instant : Instant, instant.InCodes → instant.hasDate) ∧
      (discreteMap modes).applyDated Instant.hasDate (.uint8 7) =
        .error (.other (.conversionFailed "mode" (.unmapped 7))) ∧
      (discreteMap modes).applyDated Instant.hasDate (.uint8 0) = .ok (.number 0) := by
  have dates : ∀ instant : Instant, instant.InCodes → instant.hasDate :=
    fun _ coded => Instant.hasDate_of_inCodes coded
  obtain ⟨-, refused, -⟩ := applyDated_spec dates (discreteMap modes) (.uint8 7)
  obtain ⟨-, -, converted⟩ := applyDated_spec dates (discreteMap modes) (.uint8 0)
  have lacking : (discreteMap modes).Refuses (.uint8 7) (.unmapped 7) :=
    .lacksWord (rfl : (RawValue.uint8 7).toInt64 = .ok 7) (by decide)
      (show ¬ modes.Lists 7 by decide)
  have fills : (discreteMap modes).FillsIn (.uint8 0) := ⟨modes, rfl, rfl, by decide⟩
  have accepted : ∀ fault, ¬ (discreteMap modes).Refuses (.uint8 0) fault := by
    intro fault zeroRefused
    cases (convert_of_refuses zeroRefused).symm.trans (convert_of_fillsIn fills)
  obtain ⟨value, applied, filled, -⟩ := converted accepted
  rw [filled fills] at applied
  exact ⟨dates, (refused _).mpr ⟨_, lacking, rfl⟩, applied⟩

end Conversion

end Downlink
