/-
**The primary header in six bytes.**

The primary header is three 16-bit words, each of which holds its fields without gaps. So a header
whose fields fit (`PrimaryHeader.InRange`) and the six bytes of it determine each other, and the
fields that are read off a buffer one by one are those of the header.

* `PrimaryHeader.decode?_eq_some_iff`: a buffer decodes to a header exactly when its three words are
  the header's;
* `PrimaryHeader.decode?_encode` and `PrimaryHeader.take_of_decode?`: the two directions;
* `PrimaryHeader.readOff_of_decode?`: single fields and the header agree.
-/

import Downlink.Proofs.Packet.Whole

namespace Downlink

/-! ### The first byte of a word -/

/-- A byte is the high half of the 16-bit word that begins with it. -/
theorem Word.read?_u1_of_u12 {bytes : Bytes} {offset number : Nat}
    (found : Word.u12.read? bytes offset = some number) :
    Word.u1.read? bytes offset = some (number / 256) := by
  have inside : offset + Word.u12.width ≤ bytes.length :=
    (Word.u12.isSome_read? bytes offset).mp (Option.isSome_of_mem found)
  have room : offset + Word.u1.width ≤ bytes.length := Nat.le_of_succ_le inside
  obtain ⟨first, second, rest, behind⟩ :
      ∃ first second rest, bytes.drop offset = first :: second :: rest := by
    have two : offset + 2 ≤ bytes.length := inside
    refine ⟨bytes[offset], bytes[offset + 1], bytes.drop (offset + 2), ?_⟩
    rw [List.drop_eq_getElem_cons (by omega), List.drop_eq_getElem_cons (by omega)]
    rfl
  rw [Word.read?, Bytes.slice?_eq_some inside, behind] at found
  rw [Word.read?, Bytes.slice?_eq_some room, behind]
  obtain rfl : (0 * 256 + first.toNat) * 256 + second.toNat = number := Option.some.inj found
  have small := second.toNat_lt
  show some (0 * 256 + first.toNat) = _
  exact congrArg some (by omega)

namespace PrimaryHeader

/-! ### The three words -/

/-- The fields of a header that fit their bits. -/
structure InRange (header : PrimaryHeader) : Prop where
  version : header.version < 8
  typeFlag : header.typeFlag < 2
  apid : header.apid < 0x800
  sequenceFlags : header.sequenceFlags < 4
  sequenceCount : header.sequenceCount < 0x4000
  lengthField : header.lengthField < 0x10000

/-- The sequence flags and the sequence count as one number. -/
def sequence (header : PrimaryHeader) : Nat :=
  header.sequenceFlags * 0x4000 + header.sequenceCount

/-- The six bytes of a header. -/
def encode (header : PrimaryHeader) : Bytes :=
  ByteOrder.spell .mostFirst 2 header.streamId ++ ByteOrder.spell .mostFirst 2 header.sequence ++
    ByteOrder.spell .mostFirst 2 header.lengthField

@[simp] theorem length_encode (header : PrimaryHeader) :
    header.encode.length = PacketField.headerLength := by
  simp [encode, PacketField.headerLength]

variable {header : PrimaryHeader} {bytes : Bytes}

/-- The flag is the fourth bit of the first word. -/
theorem flag_eq (number : Nat) : (number / 0x800 % 2 == 1).toNat = number / 0x800 % 2 := by
  rcases Nat.mod_two_eq_zero_or_one (number / 0x800) with clear | set
  · rw [clear]
    rfl
  · rw [set]
    rfl

theorem InRange.streamId_lt (fits : header.InRange) : header.streamId < 0x10000 := by
  have version := fits.version
  have typeFlag := fits.typeFlag
  have apid := fits.apid
  have flag := header.hasSecondaryHeader.toNat_le
  rw [streamId]
  omega

theorem InRange.sequence_lt (fits : header.InRange) : header.sequence < 0x10000 := by
  have flags := fits.sequenceFlags
  have count := fits.sequenceCount
  rw [sequence]
  omega

/-- **A buffer decodes to a header exactly when its first three words are the header's.** -/
theorem decode?_eq_some_iff :
    decode? bytes = some header ↔ header.InRange ∧ Word.u12.read? bytes 0 = some header.streamId ∧
      Word.u12.read? bytes 2 = some header.sequence ∧
      Word.u12.read? bytes 4 = some header.lengthField := by
  simp only [decode?, Option.bind_eq_bind, Option.bind_eq_some_iff]
  constructor
  · rintro ⟨identification, first, sequenceWord, second, field, third, made⟩
    obtain rfl := Option.some.inj made
    have range : 256 ^ Word.u12.width = 65536 := rfl
    have firstLt := Word.read?_lt first
    have secondLt := Word.read?_lt second
    have thirdLt := Word.read?_lt third
    rw [range] at firstLt secondLt thirdLt
    refine ⟨⟨?_, ?_, ?_, ?_, ?_, thirdLt⟩, first.trans (congrArg some ?_),
      second.trans (congrArg some ?_), third⟩
    · show identification / 0x2000 < 8
      omega
    · exact Nat.mod_lt _ Nat.zero_lt_two
    · exact Nat.mod_lt _ (by decide)
    · show sequenceWord / 0x4000 < 4
      omega
    · exact Nat.mod_lt _ (by decide)
    · show identification = identification / 0x2000 * 0x2000 +
        identification / 0x1000 % 2 * 0x1000 +
        (identification / 0x800 % 2 == 1).toNat * 0x800 + identification % 0x800
      rw [flag_eq]
      omega
    · show sequenceWord = sequenceWord / 0x4000 * 0x4000 + sequenceWord % 0x4000
      omega
  · rintro ⟨fits, first, second, third⟩
    refine ⟨_, first, _, second, _, third, congrArg some ?_⟩
    obtain ⟨version, typeFlag, flag, apid, flags, count, field⟩ := header
    have typeLt : typeFlag < 2 := fits.typeFlag
    have apidLt : apid < 0x800 := fits.apid
    have countLt : count < 0x4000 := fits.sequenceCount
    have flagLe := flag.toNat_le
    simp only [mk.injEq, streamId, sequence, and_true]
    refine ⟨by omega, by omega, ?_, by omega, by omega, by omega⟩
    have bit : (version * 0x2000 + typeFlag * 0x1000 + flag.toNat * 0x800 + apid) / 0x800 % 2 =
        flag.toNat := by
      omega
    rw [bit]
    cases flag <;> rfl

/-! ### Writing and reading -/

/-- **What is written for a header decodes to it**, whatever follows. -/
theorem decode?_encode (fits : header.InRange) (rest : Bytes) :
    decode? (header.encode ++ rest) = some header := by
  obtain ⟨first, firstEq⟩ : ∃ run, run = ByteOrder.spell .mostFirst 2 header.streamId := ⟨_, rfl⟩
  obtain ⟨second, secondEq⟩ : ∃ run, run = ByteOrder.spell .mostFirst 2 header.sequence := ⟨_, rfl⟩
  have firstLength : first.length = 2 := by rw [firstEq, ByteOrder.length_spell]
  have secondLength : second.length = 2 := by rw [secondEq, ByteOrder.length_spell]
  have range : 256 ^ Word.u12.width = 65536 := rfl
  rw [decode?_eq_some_iff, encode, ← firstEq, ← secondEq]
  refine ⟨fits, ?_, ?_, ?_⟩
  · have read := Word.u12.read?_spell [] header.streamId
      (second ++ ByteOrder.spell .mostFirst 2 header.lengthField ++ rest)
    rw [range, Nat.mod_eq_of_lt fits.streamId_lt] at read
    rw [firstEq, List.append_assoc, List.append_assoc, ← List.append_assoc second]
    exact read
  · have read := Word.u12.read?_spell first header.sequence
      (ByteOrder.spell .mostFirst 2 header.lengthField ++ rest)
    rw [range, Nat.mod_eq_of_lt fits.sequence_lt, firstLength] at read
    rw [secondEq, List.append_assoc]
    exact read
  · have read := Word.u12.read?_spell (first ++ second) header.lengthField rest
    rw [range, Nat.mod_eq_of_lt fits.lengthField, List.length_append, firstLength, secondLength]
      at read
    exact read

theorem inRange_of_decode? (decoded : decode? bytes = some header) : header.InRange :=
  (decode?_eq_some_iff.mp decoded).1

/-- **A buffer that decodes to a header begins with what is written for it.** -/
theorem take_of_decode? (decoded : decode? bytes = some header) :
    bytes.take PacketField.headerLength = header.encode := by
  obtain ⟨_, first, second, third⟩ := decode?_eq_some_iff.mp decoded
  have words : bytes.take PacketField.headerLength =
      (bytes.drop 0).take Word.u12.width ++ (bytes.drop 2).take Word.u12.width ++
        (bytes.drop 4).take Word.u12.width := by
    show bytes.take (2 + 2 + 2) =
      bytes.take 2 ++ (bytes.drop 2).take 2 ++ (bytes.drop (2 + 2)).take 2
    rw [← List.take_add, ← List.take_add]
  rw [words, Word.take_of_read? first, Word.take_of_read? second, Word.take_of_read? third]
  rfl

/-! ### Single fields -/

/-- What is read off a buffer, field by field, is what a header says. -/
structure ReadOff (header : PrimaryHeader) (bytes : Bytes) : Prop where
  streamId : PacketField.streamId? bytes = some header.streamId
  apid : PacketField.apid? bytes = some header.apid
  sequenceCount : PacketField.sequenceCount? bytes = some header.sequenceCount
  lengthField : PacketField.lengthField? bytes = some header.lengthField
  totalLength : PacketField.totalLength? bytes = some header.totalLength
  hasSecondaryHeader : PacketField.hasSecondaryHeader? bytes = some header.hasSecondaryHeader

/-- **The fields that are read one by one are those of the header.** -/
theorem readOff_of_decode? (decoded : decode? bytes = some header) : header.ReadOff bytes := by
  obtain ⟨fits, first, second, third⟩ := decode?_eq_some_iff.mp decoded
  have typeFlag := fits.typeFlag
  have apid := fits.apid
  have count := fits.sequenceCount
  have flagLe := header.hasSecondaryHeader.toNat_le
  refine ⟨first, ?_, ?_, third, totalLength?_of_decode? decoded, ?_⟩
  · rw [PacketField.apid?, PacketField.streamId?, first, Option.map_some, streamId]
    exact congrArg some (by omega)
  · rw [PacketField.sequenceCount?, second, Option.map_some, sequence]
    exact congrArg some (by omega)
  · have bit : header.streamId / 256 / 8 % 2 = header.hasSecondaryHeader.toNat := by
      rw [streamId]
      omega
    rw [PacketField.hasSecondaryHeader?, Word.read?_u1_of_u12 first, Option.map_some, bit]
    cases header.hasSecondaryHeader <;> rfl

/-- The time of a packet that has a secondary header. -/
theorem time42?_of_set (decoded : decode? bytes = some header)
    (set : header.hasSecondaryHeader = true) :
    PacketField.time42? bytes = PacketField.timeBytes? bytes := by
  rw [PacketField.time42?, (readOff_of_decode? decoded).hasSecondaryHeader, set]
  rfl

/-- A packet without a secondary header has no time. -/
theorem time42?_of_clear (decoded : decode? bytes = some header)
    (clear : header.hasSecondaryHeader = false) : PacketField.time42? bytes = some 0 := by
  rw [PacketField.time42?, (readOff_of_decode? decoded).hasSecondaryHeader, clear]
  rfl

end PrimaryHeader

end Downlink
