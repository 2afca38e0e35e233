/-
**Streams of packets.**

A stream that is read packet by packet falls apart in the one way in which its bytes do (`Splits`):
each packet is as long as it declares, and begins where those before it end. What is left at the
end is too short for a packet.

* `Packet.read_packet` and `Packet.read_short`: one packet is read, or there is none;
* `PacketStream.givesOut`: the packets are read one after another, then the source's failure, if it
  fails;
* `PacketStream.answer_splits`: the answers depend on the bytes and on the ending alone, and not on
  how the bytes are cut into pieces.
-/

import Downlink.Packet.Stream
import Downlink.Proofs.Answers
import Downlink.Proofs.Packet.Split
import Downlink.Proofs.Source
import Mathlib.Algebra.GroupWithZero.Nat

namespace Downlink

namespace Packet

variable {source : Source}

/-! ### One packet -/

/-- A packet in front of the bytes that are left is read, and nothing behind it. -/
theorem read_packet {header : PrimaryHeader} {packet rest : Bytes} (whole : IsPacket packet)
    (decoded : PrimaryHeader.decode? packet = some header)
    (begins : source.bytes = packet ++ rest) :
    ∃ later, read source = .ok (⟨header, packet, 0⟩, later) ∧ later.bytes = rest ∧
      later.ending = source.ending := by
  have longer := Nat.le_of_lt whole.headerLength_lt
  have total := whole.symm.trans (PrimaryHeader.totalLength?_of_decode? decoded)
  rw [Option.some.injEq, PrimaryHeader.totalLength] at total
  have room : PacketField.headerLength ≤ source.bytes.length := by
    rw [begins, List.length_append]
    omega
  obtain ⟨behindHead, readHead, bytesBehindHead, endingBehindHead⟩ := source.readExact_of_le room
  rw [begins, List.take_append_of_le_length longer] at readHead
  rw [begins, List.drop_append_of_le_length longer] at bytesBehindHead
  have decodedHead := (PrimaryHeader.decode?_take packet (Nat.le_refl _)).trans decoded
  have bodyLength : (packet.drop PacketField.headerLength).length = header.lengthField + 1 := by
    rw [List.length_drop]
    omega
  have bodyRoom : header.lengthField + 1 ≤ behindHead.bytes.length := by
    rw [bytesBehindHead, List.length_append]
    omega
  obtain ⟨later, readBody, bytesLater, endingLater⟩ := behindHead.readExact_of_le bodyRoom
  rw [bytesBehindHead, ← bodyLength, List.take_left, bodyLength] at readBody
  rw [bytesBehindHead, ← bodyLength, List.drop_left] at bytesLater
  refine ⟨later, ?_, bytesLater, endingLater.trans endingBehindHead⟩
  simp only [read, readHead, decodedHead, readBody, List.take_append_drop, bind, Except.bind]
  rfl

/-- Bytes that are too short for the packet that begins with them are given up. -/
theorem read_short (short : ∀ total, PacketField.totalLength? source.bytes = some total →
    source.bytes.length < total) : read source = .error source.ending := by
  by_cases noHeader : source.bytes.length < PacketField.headerLength
  · simp only [read, source.readExact_of_lt noHeader, bind, Except.bind]
  · have enough := Nat.not_lt.mp noHeader
    obtain ⟨behindHead, readHead, bytesBehindHead, endingBehindHead⟩ :=
      source.readExact_of_le enough
    obtain ⟨header, decoded⟩ :=
      Option.isSome_iff_exists.mp ((PrimaryHeader.isSome_decode? source.bytes).mpr enough)
    have decodedHead := (PrimaryHeader.decode?_take _ (Nat.le_refl _)).trans decoded
    have missing := short _ (PrimaryHeader.totalLength?_of_decode? decoded)
    have none : behindHead.readExact (header.lengthField + 1) = .error behindHead.ending := by
      refine behindHead.readExact_of_lt ?_
      rw [bytesBehindHead, List.length_drop]
      rw [PrimaryHeader.totalLength] at missing
      omega
    simp only [read, readHead, decodedHead, none, endingBehindHead, bind, Except.bind]

end Packet

namespace PacketStream

variable {packets : List Packet}

/-! ### All packets -/

/-- Packets with their own headers, each of which begins where the one before it ends. -/
inductive Located : Nat → List Packet → Prop
  | nil (offset : Nat) : Located offset []
  | cons {header : PrimaryHeader} {data : Bytes} {offset : Nat} {packets : List Packet}
      (decoded : PrimaryHeader.decode? data = some header)
      (others : Located (offset + data.length) packets) :
      Located offset (⟨header, data, offset⟩ :: packets)

/-- Bytes of packets can be given headers and places. -/
theorem exists_located {runs : List Bytes} (whole : ∀ run ∈ runs, IsPacket run) (offset : Nat) :
    ∃ packets : List Packet, packets.map (·.data) = runs ∧ Located offset packets := by
  induction runs generalizing offset with
  | nil => exact ⟨[], rfl, .nil offset⟩
  | cons run runs ih =>
    obtain ⟨first, others⟩ := List.forall_mem_cons.mp whole
    obtain ⟨header, decoded⟩ := Option.isSome_iff_exists.mp
      ((PrimaryHeader.isSome_decode? run).mpr (Nat.le_of_lt first.headerLength_lt))
    obtain ⟨packets, same, located⟩ := ih others (offset + run.length)
    exact ⟨⟨header, run, offset⟩ :: packets, congrArg (run :: ·) same, .cons decoded located⟩

/-- A packet begins behind all bytes of the packets before it. -/
theorem Located.getElem {offset : Nat} (located : Located offset packets) (place : Nat)
    (inside : place < packets.length) :
    PrimaryHeader.decode? packets[place].data = some packets[place].header ∧
      packets[place].offset = offset + ((packets.take place).map (·.data.length)).sum := by
  induction located generalizing place with
  | nil => exact absurd inside (Nat.not_lt_zero _)
  | cons decoded others ih =>
    cases place with
    | zero => exact ⟨decoded, rfl⟩
    | succ place =>
      obtain ⟨header, begins⟩ := ih place (Nat.lt_of_succ_lt_succ inside)
      refine ⟨header, ?_⟩
      rw [List.getElem_cons_succ, begins, List.take_succ_cons, List.map_cons, List.sum_cons,
        Nat.add_assoc]

/-- Nothing is read from a stream that has come to its end. -/
theorem next_finished (source : Source) (offset : Nat) :
    next ⟨source, offset, true⟩ = (none, ⟨source, offset, true⟩) :=
  rfl

/-- A stream whose bytes are too short for a packet ends, after it has reported a failure. -/
theorem givesOut_short {source : Source} (offset : Nat)
    (ended : Packet.read source = .error source.ending) :
    GivesOut next ⟨source, offset, false⟩ source.ending.reports := by
  have step : next ⟨source, offset, false⟩ =
      (source.ending.reports.head?, ⟨source, offset, true⟩) := by
    cases ending : source.ending <;> simp [next, ended, ending, Ending.reports]
  cases ending : source.ending with
  | complete =>
    rw [ending] at step
    exact .nil step (next_finished source offset)
  | failed reason =>
    rw [ending] at step
    exact .cons step (.nil (next_finished source offset) (next_finished source offset))

/-- **A stream gives out the packets that its bytes fall apart into**, then the failure of its
source, if it fails. -/
theorem givesOut {rest : Bytes} {offset : Nat} (located : Located offset packets) (source : Source)
    (splits : Splits source.bytes (packets.map (·.data)) rest) :
    GivesOut next ⟨source, offset, false⟩ (packets.map Except.ok ++ source.ending.reports) := by
  induction located generalizing source with
  | nil offset =>
    obtain rfl : rest = source.bytes := splits.joined
    exact givesOut_short offset (Packet.read_short splits.short)
  | cons decoded others ih =>
    obtain ⟨whole, begins, tail⟩ := splits.of_cons
    obtain ⟨later, read, bytesLater, endingLater⟩ := Packet.read_packet whole decoded begins.symm
    rw [List.map_cons, List.cons_append, ← endingLater]
    refine .cons ?_ (ih later (bytesLater ▸ tail))
    rw [next, if_neg Bool.false_ne_true, read]

/-- A stream has been read to its end after one call more than there are bytes. -/
theorem readPackets_eq {rest : Bytes} (located : Located 0 packets) (source : Source)
    (splits : Splits source.bytes (packets.map (·.data)) rest) :
    readPackets source = packets.map Except.ok ++ source.ending.reports := by
  refine (givesOut located source splits).pull_eq ?_
  have most := splits.length_le
  have once := source.ending.length_reports_le Packet
  rw [List.length_map, Source.bytes] at most
  rw [List.length_append, List.length_map, Source.remaining]
  omega

/-- **The answers of a stream depend on its bytes and its ending alone.** The bytes fall apart into
packets, each as long as it declares and with its header, and a rest that is too short for one; a
packet begins behind all those before it. However the bytes are cut into pieces, the stream answers
these packets one after another, then reports a failure of the source once, and has nothing ever
after. -/
theorem answer_splits (bytes : Bytes) (ending : Ending) :
    ∃ (packets : List Packet) (rest : Bytes),
      Splits bytes (packets.map (·.data)) rest ∧
      (∀ place (inside : place < packets.length),
        PrimaryHeader.decode? packets[place].data = some packets[place].header ∧
          packets[place].offset = ((packets.take place).map (·.data.length)).sum) ∧
      ∀ pieces : List Bytes, pieces.flatten = bytes →
        (∀ call, answer next ⟨⟨pieces, ending⟩, 0, false⟩ call =
          (packets.map Except.ok ++ ending.reports)[call]?) ∧
        readPackets ⟨pieces, ending⟩ = packets.map Except.ok ++ ending.reports := by
  obtain ⟨runs, rest, splits⟩ := Splits.exists_splits bytes
  obtain ⟨packets, rfl, located⟩ := exists_located splits.whole 0
  refine ⟨packets, rest, splits, fun place inside => ?_, ?_⟩
  · obtain ⟨header, begins⟩ := located.getElem place inside
    exact ⟨header, by rw [begins, Nat.zero_add]⟩
  · rintro pieces rfl
    exact ⟨(givesOut located ⟨pieces, ending⟩ splits).answer_eq,
      readPackets_eq located ⟨pieces, ending⟩ splits⟩

/-- Two packets and the beginning of a third, cut inside a header and inside a body. -/
def tornPieces : List Bytes :=
  [[8, 1, 192], [0, 0, 0, 17, 8, 1, 192, 1, 0, 1, 33], [34, 8, 1]]

theorem answer_tornPieces :
    tornPieces.flatten = [8, 1, 192, 0, 0, 0, 17, 8, 1, 192, 1, 0, 1, 33, 34, 8, 1] ∧
      ∃ packets : List Packet,
        packets.map (·.data) = [[8, 1, 192, 0, 0, 0, 17], [8, 1, 192, 1, 0, 1, 33, 34]] ∧
        ∀ call, answer next ⟨⟨tornPieces, .failed "no signal"⟩, 0, false⟩ call =
          (packets.map Except.ok ++ [.error (.io "no signal")])[call]? := by
  refine ⟨rfl, ?_⟩
  obtain ⟨packets, rest, splits, _, answers⟩ :=
    answer_splits tornPieces.flatten (.failed "no signal")
  have expected : Splits tornPieces.flatten
      [[8, 1, 192, 0, 0, 0, 17], [8, 1, 192, 1, 0, 1, 33, 34]] [8, 1] :=
    ⟨by decide, by decide, fun total declared => by
      rw [(PacketField.totalLength?_eq_none_iff _).mpr (by decide)] at declared
      contradiction⟩
  exact ⟨packets, (splits.unique expected).1, (answers tornPieces rfl).1⟩

end PacketStream

end Downlink
