/-
**A zone and a stream of the same bytes.**

Two machines take bytes apart into packets. One goes through the packet zone of a frame with a
cursor and keeps what is left over as the beginning of a packet; the other one reads a stream to its
end and gives up what is left there. From the same bytes they take the same packets:

* `Splits.rest_lacks`: what is left over lacks a whole header, or bytes that its header declares;
* `Reassembler.ExtractsAsRead`: what it is to take the packets that a stream would have;
* `Reassembler.checkedExtract_readPackets`: the cursor does so from any place in the zone, and
  changes nothing of the channel but its pending packet and its count of packets.
-/

import Downlink.Proofs.Frame.Cursor
import Downlink.Proofs.Frame.Run
import Downlink.Proofs.Packet.Stream

namespace Downlink

/-- What is left over lacks a whole header, or bytes that its header declares. -/
theorem Splits.rest_lacks {bytes rest : Bytes} {packets : List Bytes}
    (splits : Splits bytes packets rest) :
    rest.length < PacketField.headerLength ∨
      ∃ total, PacketField.totalLength? rest = some total ∧ rest.length < total := by
  cases declared : PacketField.totalLength? rest with
  | none => exact .inl ((PacketField.totalLength?_eq_none_iff rest).mp declared)
  | some total => exact .inr ⟨total, rfl, splits.short total declared⟩

namespace Reassembler

/-- The packets that are given out are those that a stream of the same bytes has, and what it gives
up at its end is left over. -/
structure ExtractsAsRead (zone : Bytes) (spacecraft channel : Nat) (packets : List Packet)
    (rest : Bytes) (emitted : List FramedPacket) : Prop where
  /-- However the bytes are cut into pieces, the stream has these packets. -/
  read (pieces : List Bytes) : pieces.flatten = zone →
    readPackets ⟨pieces, .complete⟩ = packets.map .ok
  /-- The same bytes are given out, in the same order. -/
  bytes : emitted.map (·.view.bytes) = packets.map (·.data)
  marks : ∀ packet ∈ emitted,
    packet.valid = true ∧ packet.spacecraft = spacecraft ∧ packet.channel = channel
  /-- They are whole packets, and the rest stands behind them. -/
  splits : Splits zone (packets.map (·.data)) rest
  lacks : rest.length < PacketField.headerLength ∨
    ∃ total, PacketField.totalLength? rest = some total ∧ rest.length < total

/-- Bytes are taken apart as they would be read. -/
theorem exists_extractsAsRead (reassembler : Reassembler) (spacecraft : Nat) (zone : Bytes) :
    ∃ packets rest emitted,
      ExtractsAsRead zone spacecraft reassembler.channel packets rest emitted ∧
        reassembler.extract spacecraft zone =
          ({ reassembler with
            pending := rest
            stats.packets := reassembler.stats.packets + packets.length }, emitted) := by
  obtain ⟨runs, rest, emitted, splits, extracted, bytes, marked⟩ :=
    reassembler.exists_extract spacecraft zone
  obtain ⟨packets, rfl, located⟩ := PacketStream.exists_located splits.whole 0
  rw [List.length_map] at extracted
  refine ⟨packets, rest, emitted, ⟨?read, bytes, ?marks, splits, splits.rest_lacks⟩,
    extracted⟩
  case read =>
    rintro pieces rfl
    exact (PacketStream.readPackets_eq located ⟨pieces, .complete⟩ splits).trans
      (List.append_nil _)
  case marks =>
    intro packet given
    have whole : IsPacket packet.view.bytes :=
      splits.whole _ (bytes ▸ List.mem_map_of_mem given)
    obtain ⟨valid, spacecraft, channel⟩ := marked packet given
    exact ⟨valid.trans (decide_eq_true whole), spacecraft, channel⟩

/-- **From any place in the zone the cursor takes the packets that a stream of these bytes has**,
all of them valid. What is left over becomes pending, and lacks a whole header or bytes that its
header declares. Nothing else of the channel changes but the count of its packets, and as long as
that count fits its word no check fails. -/
theorem checkedExtract_readPackets (reassembler : Reassembler) (spacecraft : Nat) {frame : Bytes}
    {cursor : Nat} (long : reassembler.geometry.frameLength ≤ frame.length)
    (inside : cursor ≤ reassembler.geometry.zoneEnd) (nothing : reassembler.pending = []) :
    ∃ packets rest emitted,
      let zone := frame.between cursor reassembler.geometry.zoneEnd
      let after := { reassembler with
        pending := rest
        stats.packets := reassembler.stats.packets + packets.length }
      ExtractsAsRead zone spacecraft reassembler.channel packets rest emitted ∧
        reassembler.extract spacecraft zone = (after, emitted) ∧
        (frame.length < bufferBound → after.stats.Fits →
          checkedExtract frame spacecraft reassembler.geometry.zoneEnd reassembler cursor =
            .ok (after, emitted)) := by
  obtain ⟨packets, rest, emitted, asRead, extracted⟩ := reassembler.exists_extractsAsRead
    spacecraft (frame.between cursor reassembler.geometry.zoneEnd)
  refine ⟨packets, rest, emitted, asRead, extracted, fun short fits => ?_⟩
  have ends : reassembler.geometry.zoneEnd ≤ frame.length :=
    Nat.le_trans reassembler.geometry.zone_le long
  rw [← extracted]
  refine checkedExtract_eq ends short spacecraft inside nothing ?_
  rw [extracted]
  exact fits

end Reassembler

/-- Frames with an insert zone of two bytes, zones of fourteen bytes and a trailer of one. -/
def FrameGeometry.fourteenByteZones : FrameGeometry where
  frameLength := 25
  headerLength := 8
  zoneStart := 10
  zoneLength := 14
  idlePointer := 0x7fe
  header_le := by decide
  pointer_le := by decide
  zone_pos := by decide
  zone_le := by decide

namespace Reassembler

open FrameGeometry (fourteenByteZones)

/-- A frame whose zone holds a byte of an earlier packet, a packet, and the header of a last one. -/
def crampedFrame : Bytes :=
  [64, 5, 0, 0, 0, 0, 7, 7, 0, 1, 99, 8, 1, 192, 0, 0, 0, 17, 8, 2, 192, 0, 0, 3, 255]

/-- The header that ends where the zone does is left over. -/
theorem checkedExtract_crampedFrame :
    fourteenByteZones.frameLength ≤ crampedFrame.length ∧ 11 ≤ fourteenByteZones.zoneEnd ∧
      (fresh 5 fourteenByteZones).pending = [] ∧
      ∃ after emitted,
        checkedExtract crampedFrame 0 fourteenByteZones.zoneEnd (fresh 5 fourteenByteZones) 11 =
          .ok (after, emitted) ∧
        emitted.map (·.view.bytes) = [[8, 1, 192, 0, 0, 0, 17]] ∧
        after.pending = [8, 2, 192, 0, 0, 3] := by
  have long : fourteenByteZones.frameLength ≤ crampedFrame.length := by decide
  have inside : 11 ≤ fourteenByteZones.zoneEnd := by decide
  obtain ⟨packets, rest, emitted, asRead, -, checked⟩ :=
    checkedExtract_readPackets (fresh 5 fourteenByteZones) 0 long inside rfl
  have expected : Splits (crampedFrame.between 11 fourteenByteZones.zoneEnd)
      [[8, 1, 192, 0, 0, 0, 17]] [8, 2, 192, 0, 0, 3] := by
    refine ⟨rfl, by decide, fun total declared => ?_⟩
    obtain rfl : 10 = total := Option.some.inj declared
    decide
  obtain ⟨runs, rfl⟩ := asRead.splits.unique expected
  have one : packets.length = 1 := (List.length_map _).symm.trans (congrArg List.length runs)
  have fits : ({ packets := 0 + packets.length } : ReassemblyStats).Fits := by
    rw [one]
    decide
  exact ⟨long, inside, rfl, _, emitted, checked (by decide) fits, asRead.bytes.trans runs, rfl⟩

end Reassembler

end Downlink
