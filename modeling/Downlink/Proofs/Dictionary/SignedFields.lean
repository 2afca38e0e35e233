/-
**Signed fields with a range of bits.**

A signed integer of two or four bytes may be given a range of its bits. When the dictionary is made
it becomes a bit field, unless the range holds all of its bits, and then it is read as a whole word
(`FieldType.narrowed`). Both readings are the two's complement of the bits in the range:

* `BitField.extractSigned_whole`: all bits of a word are the word in two's complement;
* `FieldType.understood_narrowed`: what the field of such a type is understood as;
* `Dictionary.rawValue_signedField`: the points of a dictionary.
-/

import Downlink.Dictionary.Basic
import Downlink.Proofs.Point.Extraction

namespace Downlink

/-- All bits of a word are, in two's complement, the word in two's complement. -/
theorem BitField.extractSigned_whole {word : Word} {number : Nat} (positive : 0 < word.width)
    (narrow : 8 * word.width ≤ 32) (held : number < 256 ^ word.width) :
    extractSigned ⟨8 * word.width, 0, 8 * word.width - 1⟩ (UInt32.ofNat number) =
      .ok (word.signed number) := by
  have fits : Fits ⟨8 * word.width, 0, 8 * word.width - 1⟩ :=
    ⟨narrow, Nat.zero_le _, show 8 * word.width - 1 < 8 * word.width by omega⟩
  have size : BitField.size ⟨8 * word.width, 0, 8 * word.width - 1⟩ = 8 * word.width := by
    show 8 * word.width - 1 - 0 + 1 = 8 * word.width
    omega
  have inUse : number < 2 ^ (8 * word.width) := by
    rw [Nat.pow_mul]
    exact held
  have container : (UInt32.ofNat number).toNat = number :=
    UInt32.toNat_ofNat_of_lt' (Nat.lt_of_lt_of_le inUse (Nat.pow_le_pow_right (by decide) narrow))
  rw [extractSigned_fits fits, size, container, digits_whole (by omega) inUse, Word.signed,
    Nat.one_shiftLeft]

/-! ### Types with a range of bits -/

namespace FieldType

/-- The word of a signed integer that may be given a range of its bits. -/
def rangedWord? : FieldType → Option Word
  | i12 => some .u12
  | i1234 => some .u1234
  | _ => none

variable {type : FieldType} {word : Word} {start stop : Nat}

theorem width_of_rangedWord? (found : type.rangedWord? = some word) :
    0 < word.width ∧ 8 * word.width ≤ 32 := by
  cases type
  case i12 | i1234 =>
    obtain rfl := Option.some.inj found
    decide
  all_goals cases found

/-- The bit field of the same word. -/
def ofRange : FieldType → FieldType
  | i12 => i12b
  | i1234 => i1234b
  | type => type

theorem ofRange_spec (found : type.rangedWord? = some word) :
    type.ofRange.isBitField = true ∧ type.ofRange.isSigned = true ∧
      type.ofRange.word? = some word := by
  cases type
  case i12 | i1234 => exact ⟨rfl, rfl, found⟩
  all_goals cases found

/-- A range that is given makes the type a bit field, unless it holds all bits of the word. -/
theorem narrowed_eq (found : type.rangedWord? = some word) (given : (start, stop) ≠ (0, 0)) :
    type.narrowed start stop =
      if (start, stop) = (0, 8 * word.width - 1) then type else type.ofRange := by
  cases type
  case i12 | i1234 =>
    obtain rfl := Option.some.inj found
    exact if_congr (or_iff_right given) rfl rfl
  all_goals cases found

theorem word?_narrowed (found : type.rangedWord? = some word) (start stop : Nat) :
    (type.narrowed start stop).word? = some word := by
  cases type
  case i12 | i1234 => exact (apply_ite word? _ _ _).trans ((ite_self _).trans found)
  all_goals cases found

/-- **A signed integer with a range of bits is understood as the two's complement of these bits**,
be it made a bit field or left as it is. -/
theorem understood_narrowed (found : type.rangedWord? = some word)
    (given : (start, stop) ≠ (0, 0)) {number : Nat} (held : number < 256 ^ word.width) :
    (type.narrowed start stop).understood start stop word number =
      BitField.extractSigned ⟨8 * word.width, start, stop⟩ (UInt32.ofNat number) := by
  obtain ⟨positive, narrow⟩ := width_of_rangedWord? found
  rw [narrowed_eq found given]
  split
  case isTrue whole =>
    obtain ⟨rfl, rfl⟩ := Prod.mk.inj whole
    rw [BitField.extractSigned_whole positive narrow held]
    cases type
    case i12 | i1234 => exact understood_signed rfl rfl _ _ _
    all_goals cases found
  case isFalse =>
    obtain ⟨bitField, signed, -⟩ := ofRange_spec found
    rw [understood, if_pos bitField, if_pos signed]

end FieldType

/-! ### Points of a dictionary -/

namespace Dictionary

/-- The point that the dictionary has for one that was listed in a definition. -/
def pointAt? (dictionary : Dictionary) (place index : Nat) : Option PointDefinition := do
  (← dictionary.packets[place]?).points[index]?

theorem pointAt?_ofDefinitions {packets : List PacketDefinition} (conversions : List Conversion)
    {place index : Nat} {packet : PacketDefinition} {point : PointDefinition}
    (defined : packets[place]? = some packet) (listed : packet.points[index]? = some point) :
    (ofDefinitions packets conversions).pointAt? place index =
      some (point.linked packet.apid
        (lastByKey Conversion.name (Conversion.builtins ++ conversions))) := by
  simp [pointAt?, ofDefinitions, PacketDefinition.linked, defined, listed]

/-- **A signed integer that is listed with a range of its bits is read as the two's complement of
these bits.** The dictionary has made it a bit field, or left it as it is if the range holds all of
its bits. -/
theorem rawValue_signedField {packets : List PacketDefinition} (conversions : List Conversion)
    {place index : Nat} {packet : PacketDefinition} {listed : PointDefinition} {word : Word}
    (defined : packets[place]? = some packet) (member : packet.points[index]? = some listed)
    (signed : listed.fieldType.rangedWord? = some word) (forward : listed.bitStart ≤ listed.bitStop)
    (inside : listed.bitStop < 8 * word.width)
    (given : (listed.bitStart, listed.bitStop) ≠ (0, 0)) {bytes : Bytes}
    (memory : bytes.length < sizeBound) (long : listed.byteOffset + word.width ≤ bytes.length) :
    ∃ point number value raw,
      (ofDefinitions packets conversions).pointAt? place index = some point ∧
        point.fieldType =
          (if (listed.bitStart, listed.bitStop) = (0, 8 * word.width - 1) then listed.fieldType
            else listed.fieldType.ofRange) ∧
        word.read? bytes listed.byteOffset = some number ∧
        BitField.extractSigned ⟨8 * word.width, listed.bitStart, listed.bitStop⟩
          (UInt32.ofNat number) = .ok value ∧
        point.rawValue bytes = .ok (.ok raw) ∧ raw.held? = some value := by
  obtain ⟨positive, narrow⟩ := FieldType.width_of_rangedWord? signed
  let point := listed.linked packet.apid
    (lastByKey Conversion.name (Conversion.builtins ++ conversions))
  -- Made a bit field or not, the point is read from the word that was listed.
  have found : point.fieldType.word? = some word := FieldType.word?_narrowed signed _ _
  have stop : point.fieldStop = listed.byteOffset + word.width :=
    congrArg (listed.byteOffset + ·) (FieldType.width_of_word? found _)
  have countable : point.fieldStop < sizeBound := by
    rw [stop]
    exact Nat.lt_of_le_of_lt long memory
  have holds : point.fieldStop ≤ bytes.length := by
    rw [stop]
    exact long
  obtain ⟨number, read, held⟩ :=
    PointDefinition.rawValue_held (PointDefinition.hasField_of_word? found) countable found holds
  obtain ⟨value, extracted⟩ : ∃ value, BitField.extractSigned
      ⟨8 * word.width, listed.bitStart, listed.bitStop⟩ (UInt32.ofNat number) = .ok value :=
    ⟨_, BitField.extractSigned_fits ⟨narrow, forward, inside⟩ _⟩
  have understood : point.fieldType.understood point.bitStart point.bitStop word number =
      .ok value :=
    (FieldType.understood_narrowed signed given (Word.read?_lt read)).trans extracted
  rw [understood] at held
  obtain ⟨raw, answer, integer⟩ := RawValue.exists_of_held held
  exact ⟨point, number, value, raw, pointAt?_ofDefinitions conversions defined member,
    FieldType.narrowed_eq signed given, read, extracted, answer, integer⟩

/-- The middle of a word of two bytes. -/
def middleBits : PointDefinition :=
  { id := "HK.MIDDLE", name := "MIDDLE", fieldType := .i12, bitStart := 4, bitStop := 7 }

/-- All bits of the word of four bytes behind it. -/
def allBits : PointDefinition :=
  { id := "HK.ALL", name := "ALL", fieldType := .i1234, byteOffset := 2, bitStop := 31 }

/-- The packets in which these two points lie. -/
def signedPacket : PacketDefinition :=
  { apid := 100, id := "HK", name := "HK", points := [middleBits, allBits] }

/-- The bytes of such a packet. -/
def signedBytes : Bytes :=
  [0x0b, 0x40, 0xff, 0xff, 0xff, 0xfe]

/-- Of the two points one is made a bit field and the other one left as it is, and both are read in
two's complement. -/
theorem rawValue_signedPacket :
    (middleBits.bitStart, middleBits.bitStop) ≠ (0, 0) ∧ middleBits.bitStop < 8 * Word.u12.width ∧
      (allBits.bitStart, allBits.bitStop) ≠ (0, 0) ∧ allBits.bitStop < 8 * Word.u1234.width ∧
      (∃ point raw, (ofDefinitions [signedPacket] []).pointAt? 0 0 = some point ∧
        point.fieldType = .i12b ∧
        point.rawValue signedBytes = .ok (.ok raw) ∧ raw.held? = some (-5)) ∧
      ∃ point raw, (ofDefinitions [signedPacket] []).pointAt? 0 1 = some point ∧
        point.fieldType = .i1234 ∧
        point.rawValue signedBytes = .ok (.ok raw) ∧ raw.held? = some (-2) := by
  have given : (middleBits.bitStart, middleBits.bitStop) ≠ (0, 0) := by decide
  have inside : middleBits.bitStop < 8 * Word.u12.width := by decide
  have givenAll : (allBits.bitStart, allBits.bitStop) ≠ (0, 0) := by decide
  have insideAll : allBits.bitStop < 8 * Word.u1234.width := by decide
  refine ⟨given, inside, givenAll, insideAll, ?_, ?_⟩
  · obtain ⟨point, number, value, raw, found, type, read, extracted, answer, integer⟩ :=
      rawValue_signedField [] (rfl : [signedPacket][0]? = some signedPacket)
        (rfl : signedPacket.points[0]? = some middleBits) rfl (by decide) inside given
        (show signedBytes.length < sizeBound by decide) (by decide)
    obtain rfl : number = 0x0b40 := Option.some.inj (read.symm.trans rfl)
    obtain rfl : value = -5 := Except.ok.inj (extracted.symm.trans rfl)
    exact ⟨point, raw, found, type, answer, integer⟩
  · obtain ⟨point, number, value, raw, found, type, read, extracted, answer, integer⟩ :=
      rawValue_signedField [] (rfl : [signedPacket][0]? = some signedPacket)
        (rfl : signedPacket.points[1]? = some allBits) rfl (by decide) insideAll givenAll
        (show signedBytes.length < sizeBound by decide) (by decide)
    obtain rfl : number = 0xfffffffe := Option.some.inj (read.symm.trans rfl)
    obtain rfl : value = -2 := Except.ok.inj (extracted.symm.trans rfl)
    exact ⟨point, raw, found, type, answer, integer⟩

end Dictionary

end Downlink
