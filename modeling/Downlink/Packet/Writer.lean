/-
**Writing space packets.**

* `PacketField.writeApid`, `writeSequenceCount`, `writeDataLength` and `writeTime42` write one field
  of a telemetry packet with a secondary header into a buffer;
* `PacketDraft.build` makes the bytes of a whole packet.

A packet is always version 0, telemetry, and not part of a group. At most 65536 bytes can follow its
primary header, the six bytes of the secondary header included.
-/

import Downlink.Packet.Field
import Downlink.Error

namespace Downlink

namespace PacketField

/-- The most user data that a packet with a secondary header can carry. -/
def mostUserData : Nat := 65536 - timeLength

/-- The first two bytes of a packet. -/
def identification (apid : Nat) (timed : Bool) : Bytes :=
  [UInt8.ofNat (apid / 0x100 % 8 + if timed then 8 else 0), UInt8.ofNat (apid % 0x100)]

/-- The sequence flags of a packet that is not part of a group, and its sequence count. -/
def sequenceWord (count : Nat) : Nat :=
  3 * 0x4000 + count % 0x4000

/-- The outcome of a write that does nothing when its bytes do not fit the buffer. -/
def written : Option Bytes → Except Breach Bytes
  | some bytes => .ok bytes
  | none => .error .outOfBounds

/-- Writes version, type, secondary header flag and APID. -/
def writeApid (bytes : Bytes) (apid : Nat) : Except Breach Bytes :=
  written (bytes.overwrite? 0 (identification apid true))

/-- Writes the sequence flags and the sequence count. -/
def writeSequenceCount (bytes : Bytes) (count : Nat) : Except Breach Bytes :=
  written (Word.u12.write? bytes 2 (sequenceWord count))

/-- The length field of a packet with that many bytes after its primary header. -/
def lengthFieldOf (length : Nat) : Except Breach Nat :=
  if length ≤ 65536 then .ok (length - 1) else .error (.packetTooLong length)

/-- Writes the length field of a packet with a secondary header and that much user data. -/
def writeDataLength (bytes : Bytes) (userLength : Nat) : Except Breach Bytes := do
  if sizeBound ≤ userLength + timeLength then throw .overflow
  let field ← lengthFieldOf (userLength + timeLength)
  written (Word.u12.write? bytes 4 field)

/-- Writes the secondary header. -/
def writeTime42 (bytes : Bytes) (time42 : Nat) : Except Breach Bytes :=
  written (Word.u123456.write? bytes headerLength time42)

end PacketField

/-- What a packet is built from. -/
structure PacketDraft where
  apid : Nat
  sequenceCount : Nat := 0
  /-- Without a time the packet has no secondary header. -/
  time42 : Option Nat := some 0
  userData : Bytes := []
  deriving DecidableEq, Repr

namespace PacketDraft

/-- Everything after the primary header. A packet has at least one byte there: one without a
secondary header and without user data has a zero. -/
def body (draft : PacketDraft) : Bytes :=
  match draft.time42 with
  | some time42 => ByteOrder.spell .mostFirst PacketField.timeLength time42 ++ draft.userData
  | none => if draft.userData.isEmpty then [0] else draft.userData

/-- The bytes of the packet. -/
def build (draft : PacketDraft) : Except Breach Bytes := do
  let field ← PacketField.lengthFieldOf draft.body.length
  return PacketField.identification draft.apid draft.time42.isSome ++
    ByteOrder.spell .mostFirst 2 (PacketField.sequenceWord draft.sequenceCount) ++
    ByteOrder.spell .mostFirst 2 field ++ draft.body

end PacketDraft

end Downlink
