/-
**Whole packets and beginnings of packets.**

A run of bytes is a packet (`IsPacket`) when it is as long as its own length field says. What a
header says depends on its six bytes alone, so that the bytes after a packet, or the missing end of
one that has only begun (`IsBeginning`), do not matter to it:

* `totalLength?_append`: the declared length is read off the header, whatever follows;
* `PacketView.of?_eq_none_iff`: a buffer can be viewed as a packet exactly when it holds a header;
* `IsPacket.totalLength?_beginning`: a beginning does not declare its own length or less.
-/

import Downlink.Packet.View
import Downlink.Proofs.Word

namespace Downlink

/-! ### The declared length -/

namespace PacketField

theorem isSome_totalLength? (bytes : Bytes) :
    (totalLength? bytes).isSome ↔ headerLength ≤ bytes.length := by
  unfold totalLength? lengthField?
  rw [Option.isSome_map]
  exact Word.u12.isSome_read? bytes 4

theorem totalLength?_eq_none_iff (bytes : Bytes) :
    totalLength? bytes = none ↔ bytes.length < headerLength := by
  rw [← Option.not_isSome_iff_eq_none, isSome_totalLength?, Nat.not_le]

/-- A length field cannot declare more than the longest packet. -/
theorem totalLength?_le {bytes : Bytes} {total : Nat}
    (declared : totalLength? bytes = some total) : total ≤ longestPacket := by
  obtain ⟨field, read, rfl⟩ := Option.map_eq_some_iff.mp declared
  have bound := Word.read?_lt read
  have range : 256 ^ Word.u12.width = 65536 := rfl
  unfold longestPacket headerLength
  omega

/-- The declared length is read off the header, whatever follows it. -/
theorem totalLength?_append {bytes : Bytes} (header : headerLength ≤ bytes.length)
    (more : Bytes) : totalLength? (bytes ++ more) = totalLength? bytes := by
  unfold totalLength? lengthField?
  have fits : 4 + Word.u12.width ≤ bytes.length := header
  rw [Word.u12.read?_append fits]

end PacketField

/-! ### Views -/

namespace PrimaryHeader

theorem isSome_decode? (bytes : Bytes) :
    (decode? bytes).isSome ↔ PacketField.headerLength ≤ bytes.length := by
  have first := Word.u12.isSome_read? bytes 0
  have second := Word.u12.isSome_read? bytes 2
  have third := Word.u12.isSome_read? bytes 4
  have width : Word.u12.width = 2 := rfl
  have length : PacketField.headerLength = 6 := rfl
  rw [width] at first second third
  rw [length]
  unfold decode?
  constructor
  · intro decoded
    cases field : Word.u12.read? bytes 4 with
    | none => simp [field] at decoded
    | some _ => exact third.mp (by rw [field]; rfl)
  · intro room
    obtain ⟨identification, readIdentification⟩ :=
      Option.isSome_iff_exists.mp (first.mpr (by omega))
    obtain ⟨sequence, readSequence⟩ := Option.isSome_iff_exists.mp (second.mpr (by omega))
    obtain ⟨field, readField⟩ := Option.isSome_iff_exists.mp (third.mpr room)
    simp [readIdentification, readSequence, readField]

/-- A header is read off the bytes in front, whatever follows it. -/
theorem decode?_append {bytes : Bytes} (header : PacketField.headerLength ≤ bytes.length)
    (more : Bytes) : decode? (bytes ++ more) = decode? bytes := by
  have room (offset : Nat) (inside : offset ≤ 4) : offset + Word.u12.width ≤ bytes.length :=
    Nat.le_trans (Nat.add_le_add_right inside 2) header
  simp only [decode?, Word.u12.read?_append (room 0 (by decide)),
    Word.u12.read?_append (room 2 (by decide)), Word.u12.read?_append (room 4 (by decide))]

/-- A header is read off the first bytes of a buffer that are enough for it, if at all. -/
theorem decode?_take (bytes : Bytes) {count : Nat} (covers : PacketField.headerLength ≤ count) :
    decode? (bytes.take count) = decode? bytes := by
  have inside (offset : Nat) (early : offset ≤ 4) : offset + Word.u12.width ≤ count :=
    Nat.le_trans (Nat.add_le_add_right early 2) covers
  simp only [decode?, Word.u12.read?_take bytes (inside 0 (by decide)),
    Word.u12.read?_take bytes (inside 2 (by decide)),
    Word.u12.read?_take bytes (inside 4 (by decide))]

theorem totalLength?_of_decode? {bytes : Bytes} {header : PrimaryHeader}
    (decoded : decode? bytes = some header) :
    PacketField.totalLength? bytes = some header.totalLength := by
  simp only [decode?, Option.bind_eq_bind, Option.bind_eq_some_iff] at decoded
  obtain ⟨_, _, _, _, field, read, made⟩ := decoded
  obtain rfl := Option.some.inj made
  exact Option.map_eq_some_iff.mpr ⟨field, read, rfl⟩

end PrimaryHeader

namespace PacketView

theorem of?_eq_none_iff (bytes : Bytes) :
    of? bytes = none ↔ bytes.length < PacketField.headerLength := by
  rw [← Nat.not_le, ← PrimaryHeader.isSome_decode?, Option.not_isSome_iff_eq_none]
  unfold of?
  split
  · simp_all
  · simp_all

/-- A buffer is viewed with the header that it decodes to. -/
theorem of?_eq_some {bytes : Bytes} {header : PrimaryHeader}
    (decoded : PrimaryHeader.decode? bytes = some header) :
    of? bytes = some ⟨bytes, header, decoded⟩ := by
  unfold of?
  split
  case h_1 other same =>
    obtain rfl := Option.some.inj (decoded.symm.trans same)
    rfl
  case h_2 none => simp [decoded] at none

/-- A view is of the bytes that it was made from. -/
theorem bytes_of? {bytes : Bytes} {view : PacketView} (made : of? bytes = some view) :
    view.bytes = bytes := by
  unfold of? at made
  split at made
  · obtain rfl := Option.some.inj made
    rfl
  · simp at made

/-- A view declares the length that its bytes do. -/
theorem totalLength?_bytes (view : PacketView) :
    PacketField.totalLength? view.bytes = some view.totalLength :=
  PrimaryHeader.totalLength?_of_decode? view.decoded

theorem headerLength_le (view : PacketView) : PacketField.headerLength ≤ view.bytes.length := by
  rw [← PrimaryHeader.isSome_decode?, view.decoded]
  rfl

end PacketView

/-- A buffer that holds all bytes its header declares decodes to a packet of these bytes. -/
theorem Packet.decode?_of_totalLength {header : PrimaryHeader} {bytes : Bytes}
    (decoded : PrimaryHeader.decode? bytes = some header)
    (complete : header.totalLength ≤ bytes.length) :
    decode? bytes = some ⟨header, bytes.take header.totalLength, 0⟩ := by
  rw [decode?, PacketView.of?_eq_some decoded]
  exact if_pos (decide_eq_true complete)

/-! ### Packets and their beginnings -/

/-- The bytes of one packet: as many as their header declares. -/
def IsPacket (bytes : Bytes) : Prop :=
  PacketField.totalLength? bytes = some bytes.length

instance (bytes : Bytes) : Decidable (IsPacket bytes) :=
  inferInstanceAs (Decidable (_ = _))

/-- The beginning of a packet: any number of its first bytes, but not all. -/
def IsBeginning (bytes : Bytes) : Prop :=
  ∃ missing, missing ≠ [] ∧ IsPacket (bytes ++ missing)

namespace IsPacket

variable {packet : Bytes} (whole : IsPacket packet)
include whole

theorem headerLength_lt : PacketField.headerLength < packet.length :=
  PacketField.headerLength_lt_totalLength? whole

theorem length_le : packet.length ≤ PacketField.longestPacket :=
  PacketField.totalLength?_le whole

theorem ne_nil : packet ≠ [] :=
  List.ne_nil_of_length_pos (Nat.zero_lt_of_lt whole.headerLength_lt)

/-- A packet declares its length whatever follows it. -/
theorem totalLength?_append (more : Bytes) :
    PacketField.totalLength? (packet ++ more) = some packet.length := by
  rw [PacketField.totalLength?_append (Nat.le_of_lt whole.headerLength_lt)]
  exact whole

/-- As soon as a packet declares a length, it declares the whole one. -/
theorem totalLength?_beginning {bytes missing : Bytes} (split : packet = bytes ++ missing)
    {total : Nat} (declared : PacketField.totalLength? bytes = some total) :
    total = packet.length := by
  have header : PacketField.headerLength ≤ bytes.length := by
    rw [← PacketField.isSome_totalLength?, declared]
    rfl
  have same := PacketField.totalLength?_append header missing
  rw [← split, whole, declared] at same
  exact (Option.some.inj same).symm

end IsPacket

end Downlink
