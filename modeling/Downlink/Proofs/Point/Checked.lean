/-
**Decoding a point check by check.**

A machine that decodes a point adds up where its field ends, takes the bytes of the field one by
one, counts and shifts bits in small words, and adds up the seconds of a time code.
`PointDefinition.checkedValue` decodes a point in this way, with every check of a sum, a difference,
a shift or a place. It has the answer of `PointDefinition.value`: the only check that can fail is
that of where the field ends, which comes before the length of the packet is looked at.

* `FieldType.checkedBytes_eq`, `FieldType.checkedDecode_eq`: the bytes of a field, and the raw value
  that they stand for;
* `Conversion.checkedConvert_eq`: the engineering value of a raw value;
* `PointDefinition.checkedValue_eq`: the value of a point.
-/

import Downlink.Point.Definition
import Downlink.Proofs.Checks

namespace Downlink

/-! ### Bytes -/

namespace Bytes

/-- The bytes of a run, taken one by one. -/
def checkedRun (bytes : Bytes) (offset : Nat) : Nat → Except Breach Bytes
  | 0 => .ok []
  | width + 1 => do
    Breach.overflow.ensure (offset < sizeBound)
    let byte ← Breach.outOfBounds.ensureSome bytes[offset]?
    return byte :: (← bytes.checkedRun (offset + 1) width)

/-- A run that the buffer holds can be taken byte by byte. -/
theorem checkedRun_eq {bytes : Bytes} {offset width : Nat} (countable : offset + width < sizeBound)
    (inside : offset + width ≤ bytes.length) :
    bytes.checkedRun offset width = .ok (bytes.between offset (offset + width)) := by
  induction width generalizing offset with
  | zero => rw [Nat.add_zero, between_self]; rfl
  | succ width ih =>
    have here : offset < bytes.length := by omega
    have rest := ih (show offset + 1 + width < sizeBound by omega) (by omega)
    rw [checkedRun, Breach.ensure_bind (by omega),
      Breach.ensureSome_bind (List.getElem?_eq_getElem here), rest]
    have first : bytes.between offset (offset + 1) = [bytes[offset]] := by
      rw [between, Nat.add_sub_cancel_left, List.drop_eq_getElem_cons here]
      rfl
    rw [← between_append (Nat.le_succ offset) (by omega), first, Nat.add_right_comm, Nat.add_assoc]
    rfl

/-- A slice is what lies between its ends. -/
theorem slice?_eq_between {bytes : Bytes} {offset width : Nat}
    (inside : offset + width ≤ bytes.length) :
    bytes.slice? offset width = some (bytes.between offset (offset + width)) := by
  rw [slice?, if_pos inside, between, Nat.add_sub_cancel_left]

end Bytes

/-! ### Bits -/

/-- Bits are counted in 16-bit words. -/
def bitCountBound : Nat := 1 <<< 16

/-- A container is shifted by fewer bits than it has. -/
def containerBits : Nat := 32

/-- A number of bits of a container as a two's complement integer. -/
def checkedSignExtend (container : UInt32) (count : Nat) : Except Breach Int := do
  if ¬ (count = 0 ∨ containerBits ≤ count) then
    Breach.overflow.ensure (count ≤ containerBits)
    Breach.overflow.ensure (containerBits - count < containerBits)
  return signExtend container count

theorem checkedSignExtend_eq (container : UInt32) (count : Nat) :
    checkedSignExtend container count = .ok (signExtend container count) := by
  unfold checkedSignExtend
  split
  case isTrue shifted =>
    rw [Breach.ensure_bind (by omega), Breach.ensure_bind (by omega)]
    rfl
  case isFalse => rfl

namespace BitField

/-- The number of bits in the field. -/
def checkedSize (field : BitField) : Except Breach Nat := do
  Breach.overflow.ensure (field.start ≤ field.stop)
  Breach.overflow.ensure (field.stop - field.start + 1 < bitCountBound)
  return field.size

/-- The number of bits behind the field. -/
def checkedShift (field : BitField) : Except Breach Nat := do
  Breach.overflow.ensure (1 ≤ field.width)
  Breach.overflow.ensure (field.stop ≤ field.width - 1)
  Breach.overflow.ensure (field.width - 1 - field.stop < containerBits)
  return field.width - 1 - field.stop

/-- The field as a number. -/
def checkedExtract (field : BitField) (container : UInt32) :
    Except Breach (Except Error UInt32) := do
  if field.Fits then
    let size ← field.checkedSize
    let shift ← field.checkedShift
    return .ok ((container >>> UInt32.ofNat shift) &&& lowBits size)
  else return .error (.invalidBitRange field.start field.stop field.width)

/-- The field as a two's complement integer. -/
def checkedExtractSigned (field : BitField) (container : UInt32) :
    Except Breach (Except Error Int) := do
  match ← field.checkedExtract container with
  | .error error => return .error error
  | .ok bits =>
    let size ← field.checkedSize
    return .ok (← checkedSignExtend bits size)

variable {field : BitField}

theorem checkedSize_eq (fits : field.Fits) : field.checkedSize = .ok field.size := by
  obtain ⟨narrow, forward, inside⟩ := fits
  have count : field.stop - field.start + 1 < bitCountBound := by
    rw [bitCountBound, Nat.one_shiftLeft]
    omega
  rw [checkedSize, Breach.ensure_bind forward, Breach.ensure_bind count]
  rfl

theorem checkedShift_eq (fits : field.Fits) :
    field.checkedShift = .ok (field.width - 1 - field.stop) := by
  obtain ⟨narrow, -, inside⟩ := fits
  have shift : field.width - 1 - field.stop < containerBits := by
    rw [containerBits]
    omega
  rw [checkedShift, Breach.ensure_bind (by omega), Breach.ensure_bind (by omega),
    Breach.ensure_bind shift]
  rfl

theorem checkedExtract_eq (field : BitField) (container : UInt32) :
    field.checkedExtract container = .ok (field.extract container) := by
  unfold checkedExtract extract
  split
  case isTrue fits => rw [checkedSize_eq fits, checkedShift_eq fits]; rfl
  case isFalse => rfl

theorem checkedExtractSigned_eq (field : BitField) (container : UInt32) :
    field.checkedExtractSigned container = .ok (field.extractSigned container) := by
  rw [checkedExtractSigned, checkedExtract_eq, ok_bind, extractSigned, extract]
  by_cases fits : field.Fits
  case pos =>
    rw [if_pos fits]
    simp only [checkedSize_eq fits, checkedSignExtend_eq, ok_bind]
    rfl
  case neg => rw [if_neg fits]; rfl

end BitField

/-! ### Fields -/

namespace FieldType

/-- The bytes of a field: those of a text or of a word of eight bytes at once, and those of a
smaller word one by one. -/
def checkedBytes (type : FieldType) (packet : Bytes) (offset width : Nat) : Except Breach Bytes :=
  match type with
  | s1 | f12345678 | f87654321 | i12345678 | time44 | u12345678 => do
    Breach.overflow.ensure (offset + width < sizeBound)
    packet.checkedBetween offset (offset + width)
  | _ => packet.checkedRun offset width

/-- The raw value of a field. -/
def checkedDecode (type : FieldType) (start stop : Nat) (field : Bytes) :
    Except Breach (Except Error RawValue) :=
  let bits (width number : Nat) : Except Breach (Except Error UInt32) :=
    BitField.checkedExtract ⟨width, start, stop⟩ (UInt32.ofNat number)
  let signedBits (width number : Nat) : Except Breach (Except Error Int) :=
    BitField.checkedExtractSigned ⟨width, start, stop⟩ (UInt32.ofNat number)
  match type with
  | s1 => do
    let content ← field.checkedBetween 0 (field.findIdx (· == 0))
    return .ok (.text (Text.ofUtf8 content))
  | u1b => do return (← bits 8 (number field)).map fun value => .uint8 value.toUInt8
  | u12b => do return (← bits 16 (number field)).map fun value => .uint16 value.toUInt16
  | u1234b => do return (← bits 32 (number field)).map .uint32
  | u4321b => do return (← bits 32 (reversed field)).map .uint32
  | i12b => do return (← signedBits 16 (number field)).map fun value => .int16 (Int16.ofInt value)
  | i1234b => do return (← signedBits 32 (number field)).map fun value => .int32 (Int32.ofInt value)
  -- The others give their bytes another form.
  | type => return type.decode start stop field

theorem checkedBytes_eq (type : FieldType) {packet : Bytes} {offset width : Nat}
    (countable : offset + width < sizeBound) (inside : offset + width ≤ packet.length) :
    type.checkedBytes packet offset width = .ok (packet.between offset (offset + width)) := by
  unfold checkedBytes
  split
  case h_7 => exact Bytes.checkedRun_eq countable inside
  all_goals
    rw [Breach.ensure_bind countable]
    exact Bytes.checkedBetween_eq (Nat.le_add_right offset width) inside

/-- The bytes of a field at an offset. -/
def checkedRead (type : FieldType) (packet : Bytes) (offset width : Nat) :
    Except Breach (Except Error Bytes) := do
  Breach.overflow.ensure (offset + width < sizeBound)
  if packet.length < offset + width then
    return .error (.notEnoughData packet.length (offset + width))
  else return .ok (← type.checkedBytes packet offset width)

/-- A field that ends at a place that can be counted is read if the packet holds it. -/
theorem checkedRead_eq (type : FieldType) (packet : Bytes) (offset width : Nat) :
    type.checkedRead packet offset width =
      if sizeBound ≤ offset + width then .error .overflow
      else match packet.slice? offset width with
        | some field => .ok (.ok field)
        | none => .ok (.error (.notEnoughData packet.length (offset + width))) := by
  by_cases countable : offset + width < sizeBound
  case neg =>
    rw [checkedRead, Breach.ensure, if_neg countable, if_pos (Nat.le_of_not_lt countable)]
    rfl
  rw [checkedRead, Breach.ensure_bind countable, if_neg (Nat.not_le_of_lt countable)]
  by_cases inside : offset + width ≤ packet.length
  case neg =>
    rw [if_pos (Nat.lt_of_not_le inside), Bytes.slice?, if_neg inside]
    rfl
  rw [if_neg (Nat.not_lt_of_le inside), checkedBytes_eq type countable inside,
    Bytes.slice?_eq_between inside]
  rfl

/-- The text of a field ends inside the field. -/
theorem checkedBetween_text (field : Bytes) :
    field.checkedBetween 0 (field.findIdx (· == 0)) =
      .ok (field.takeWhile (· != 0)) := by
  have zero : (fun byte : UInt8 => !(byte != 0)) = (· == 0) := funext fun _ => Bool.not_not _
  rw [Bytes.checkedBetween_eq (Nat.zero_le _) List.findIdx_le_length, Bytes.between,
    List.drop_zero, Nat.sub_zero, List.takeWhile_eq_take_findIdx_not, zero]

theorem checkedDecode_eq (type : FieldType) (start stop : Nat) (field : Bytes) :
    type.checkedDecode start stop field = .ok (type.decode start stop field) := by
  cases type
  case s1 => rw [checkedDecode, checkedBetween_text]; rfl
  all_goals
    simp only [checkedDecode, BitField.checkedExtract_eq, BitField.checkedExtractSigned_eq, ok_bind]
    rfl

end FieldType

/-! ### Conversions -/

/-- The seconds of an instant are a signed 64-bit word. -/
def secondBound : Int := 1 <<< 63

theorem sizeBound_eq : sizeBound = 18446744073709551616 :=
  rfl

namespace Instant

/-- The instant of a Time40 code. -/
def checkedOfTime40 (code : Nat) : Except Breach Instant := do
  Breach.overflow.ensure (missionEpoch + code < secondBound)
  return ofTime40 code

/-- The instant of a Time42 code, whose ticks are first counted in tenths of microseconds. -/
def checkedOfTime42 (code : Nat) : Except Breach Instant := do
  Breach.overflow.ensure (missionEpoch + time42Seconds code < secondBound)
  Breach.overflow.ensure (time42Ticks code * 10000000 < sizeBound)
  Breach.overflow.ensure (time42Ticks code * 10000000 / ticksPerSecond * 100 < sizeBound)
  return ofTime42 code

/-- The instant of a Time44 code. -/
def checkedOfTime44 (code : Nat) : Except Breach Instant := do
  Breach.overflow.ensure (code / 0x100000000 + code % 0x100000000 / 1000000000 < sizeBound)
  return ofTime44 code

theorem checkedOfTime40_eq (code : UInt32) :
    checkedOfTime40 code.toNat = .ok (ofTime40 code.toNat) := by
  have range := code.toNat_lt
  have seconds : missionEpoch + code.toNat < secondBound := by
    rw [missionEpoch, secondBound]
    omega
  exact Breach.ensure_bind seconds _

theorem checkedOfTime42_eq (code : Nat) : checkedOfTime42 code = .ok (ofTime42 code) := by
  have seconds : missionEpoch + time42Seconds code < secondBound := by
    rw [missionEpoch, secondBound, time42Seconds, ticksPerSecond]
    omega
  have ticks : time42Ticks code < 65536 := Nat.mod_lt _ (by decide)
  have bound := sizeBound_eq
  rw [checkedOfTime42, Breach.ensure_bind seconds, Breach.ensure_bind (by omega),
    Breach.ensure_bind (by rw [ticksPerSecond]; omega)]
  rfl

theorem checkedOfTime44_eq (code : UInt64) :
    checkedOfTime44 code.toNat = .ok (ofTime44 code.toNat) := by
  have range := code.toNat_lt
  have bound := sizeBound_eq
  exact Breach.ensure_bind (by omega) _

end Instant

namespace Polynomial

/-- The value of a polynomial. The number of coefficients that are needed is added up only where
there are fewer. -/
def checkedEvaluate (polynomial : Polynomial) (number : Float) :
    Except Breach (Except ConversionFault Float) := do
  if greatestOrder < polynomial.order then return .ok 0
  else if polynomial.coefficients.length ≤ polynomial.order then
    Breach.overflow.ensure (polynomial.order + 1 < sizeBound)
    return .error (.missingCoefficients polynomial.order polynomial.coefficients.length)
  else return .ok (sum (polynomial.coefficients.take (polynomial.order + 1)) number)

theorem checkedEvaluate_eq (polynomial : Polynomial) (number : Float) :
    polynomial.checkedEvaluate number = .ok (polynomial.evaluate number) := by
  unfold checkedEvaluate evaluate
  split
  case isTrue => rfl
  case isFalse low =>
    have needed : polynomial.order + 1 < sizeBound := by
      rw [greatestOrder] at low
      rw [sizeBound_eq]
      omega
    rw [Breach.ensure_bind needed]
    split <;> rfl

end Polynomial

namespace Conversion

/-- The engineering value of a raw value. -/
def checkedConvert : Conversion → RawValue →
    Except Breach (Except ConversionFault EngineeringValue)
  | polynomial definition, raw => do
    match raw.toFloat with
    | .error fault => return .error fault
    | .ok number => return (← definition.checkedEvaluate number).map .number
  | time40, .uint32 code => return .ok (.text (← Instant.checkedOfTime40 code.toNat).itos)
  | time42, .uint64 code => return .ok (.text (← Instant.checkedOfTime42 code.toNat).itos)
  | time44, .uint64 code => return .ok (.text (← Instant.checkedOfTime44 code.toNat).itos)
  | conversion, raw => return conversion.convert raw

/-- The engineering value of a raw value; a failure tells which conversion failed. -/
def checkedApply (conversion : Conversion) (raw : RawValue) :
    Except Breach (Except Error EngineeringValue) := do
  return (← conversion.checkedConvert raw).mapError (.conversionFailed conversion.name)

theorem checkedConvert_eq (conversion : Conversion) (raw : RawValue) :
    conversion.checkedConvert raw = .ok (conversion.convert raw) := by
  unfold checkedConvert
  split
  case h_1 definition =>
    rw [convert]
    rcases raw.toFloat with fault | number
    case error => rfl
    case ok =>
      simp only [Polynomial.checkedEvaluate_eq, ok_bind]
      rfl
  case h_2 code => rw [Instant.checkedOfTime40_eq]; rfl
  case h_3 code => rw [Instant.checkedOfTime42_eq]; rfl
  case h_4 code => rw [Instant.checkedOfTime44_eq]; rfl
  case h_5 => rfl

theorem checkedApply_eq (conversion : Conversion) (raw : RawValue) :
    conversion.checkedApply raw = .ok (conversion.apply raw) := by
  rw [checkedApply, checkedConvert_eq]
  rfl

end Conversion

/-! ### Points -/

namespace PointDefinition

/-- The bytes that the point is read from. -/
def checkedField (point : PointDefinition) (packet : Bytes) :
    Except Breach (Except Error Bytes) :=
  match point.fieldType with
  | .pseudo => .ok (.ok [])
  | .fullPacket => .ok (.ok packet)
  | type => type.checkedRead packet point.byteOffset (type.width point.byteSize)

/-- The raw value of the point in a packet. -/
def checkedRawValue (point : PointDefinition) (packet : Bytes) :
    Except Breach (Except Error RawValue) := do
  match ← point.checkedField packet with
  | .ok field => point.fieldType.checkedDecode point.bitStart point.bitStop field
  | .error error => return .error error

/-- The engineering value of the point in a packet. -/
def checkedValue (point : PointDefinition) (packet : Bytes) :
    Except Breach (Except Error EngineeringValue) := do
  match ← point.checkedRawValue packet with
  | .ok raw => point.conversion.checkedApply raw
  | .error error => return .error error

theorem checkedField_eq (point : PointDefinition) (packet : Bytes) :
    point.checkedField packet = point.field packet := by
  unfold checkedField field
  cases point.fieldType
  case pseudo | fullPacket => rfl
  all_goals exact FieldType.checkedRead_eq _ packet _ _

theorem checkedRawValue_eq (point : PointDefinition) (packet : Bytes) :
    point.checkedRawValue packet = point.rawValue packet := by
  rw [checkedRawValue, checkedField_eq, rawValue]
  rcases point.field packet with breach | error | field
  case error => rfl
  case ok.error => rfl
  case ok.ok => exact FieldType.checkedDecode_eq _ _ _ field

/-- **Decoding a point meets no breach at any check but that of where its field ends.** -/
theorem checkedValue_eq (point : PointDefinition) (packet : Bytes) :
    point.checkedValue packet = point.value packet := by
  rw [checkedValue, checkedRawValue_eq, value]
  rcases point.rawValue packet with breach | error | raw
  case error => rfl
  case ok.error => rfl
  case ok.ok => exact Conversion.checkedApply_eq _ raw

end PointDefinition

end Downlink
