/-
**Bytes taken apart into packets.**

Bytes at the start of which a packet starts fall apart into whole packets and a rest that is too
short for a header or for what its header declares (`Splits`). There is only one way to do so
(`Splits.unique`): every packet tells where the next one starts.
-/

import Downlink.Proofs.Packet.Whole

namespace Downlink

/-- The bytes are these packets, one after another, and a rest that holds no whole packet. -/
structure Splits (bytes : Bytes) (packets : List Bytes) (rest : Bytes) : Prop where
  joined : packets.flatten ++ rest = bytes
  whole : ∀ packet ∈ packets, IsPacket packet
  short : ∀ total, PacketField.totalLength? rest = some total → rest.length < total

namespace Splits

/-- Bytes that do not begin with a whole packet are all rest. -/
theorem nil {bytes : Bytes}
    (short : ∀ total, PacketField.totalLength? bytes = some total → bytes.length < total) :
    Splits bytes [] bytes :=
  ⟨rfl, List.forall_mem_nil _, short⟩

theorem cons {packet bytes rest : Bytes} {packets : List Bytes} (whole : IsPacket packet)
    (others : Splits bytes packets rest) : Splits (packet ++ bytes) (packet :: packets) rest where
  joined := by rw [List.flatten_cons, List.append_assoc, others.joined]
  whole := List.forall_mem_cons.mpr ⟨whole, others.whole⟩
  short := others.short

/-- The first of the packets stands in front, and the rest splits into the others. -/
theorem of_cons {packet bytes rest : Bytes} {packets : List Bytes}
    (splits : Splits bytes (packet :: packets) rest) :
    IsPacket packet ∧ packet ++ (packets.flatten ++ rest) = bytes ∧
      Splits (packets.flatten ++ rest) packets rest := by
  have joined := splits.joined
  rw [List.flatten_cons, List.append_assoc] at joined
  obtain ⟨first, others⟩ := List.forall_mem_cons.mp splits.whole
  exact ⟨first, joined, rfl, others, splits.short⟩

/-- The beginning of a packet holds no whole one. -/
theorem of_isBeginning {bytes : Bytes} (beginning : IsBeginning bytes) : Splits bytes [] bytes := by
  obtain ⟨missing, some, whole⟩ := beginning
  refine nil fun total declared => ?_
  rw [whole.totalLength?_beginning rfl declared, List.length_append]
  exact Nat.lt_add_of_pos_right (List.length_pos_iff.mpr some)

/-- Whole packets and the beginning of one split into just these. -/
theorem of_packets {packets : List Bytes} (whole : ∀ packet ∈ packets, IsPacket packet)
    {rest : Bytes} (beginning : IsBeginning rest) :
    Splits (packets.flatten ++ rest) packets rest := by
  induction packets with
  | nil => exact of_isBeginning beginning
  | cons packet packets ih =>
    obtain ⟨first, others⟩ := List.forall_mem_cons.mp whole
    rw [List.flatten_cons, List.append_assoc]
    exact cons first (ih others)

/-- The rest is no longer than a packet. -/
theorem length_rest_le {bytes rest : Bytes} {packets : List Bytes}
    (splits : Splits bytes packets rest) : rest.length ≤ PacketField.longestPacket := by
  cases declared : PacketField.totalLength? rest with
  | none =>
    have less := (PacketField.totalLength?_eq_none_iff rest).mp declared
    unfold PacketField.longestPacket
    omega
  | some total =>
    exact Nat.le_trans (Nat.le_of_lt (splits.short total declared))
      (PacketField.totalLength?_le declared)

/-- There is no more than one packet for every seven bytes. -/
theorem length_le {bytes rest : Bytes} {packets : List Bytes}
    (splits : Splits bytes packets rest) : 7 * packets.length ≤ bytes.length := by
  induction packets generalizing bytes with
  | nil => exact Nat.zero_le _
  | cons packet packets ih =>
    obtain ⟨whole, joined, tail⟩ := splits.of_cons
    have header : 6 < packet.length := whole.headerLength_lt
    have others := ih tail
    rw [← joined, List.length_append, List.length_cons]
    omega

/-- A rest holds no packet in front. -/
theorem rest_ne {packet bytes rest : Bytes} (whole : IsPacket packet)
    (short : ∀ total, PacketField.totalLength? rest = some total → rest.length < total) :
    rest ≠ packet ++ bytes := by
  rintro rfl
  have less := short _ (whole.totalLength?_append bytes)
  rw [List.length_append] at less
  omega

/-- Of two packets at the start of the same bytes, both are the same. -/
theorem packet_unique {first second rest rest' : Bytes} (whole : IsPacket first)
    (whole' : IsPacket second) (same : first ++ rest = second ++ rest') :
    first = second ∧ rest = rest' := by
  have declared := whole.totalLength?_append rest
  rw [same, whole'.totalLength?_append rest'] at declared
  exact List.append_inj same (Option.some.inj declared).symm

/-- **Bytes split into packets in one way only.** -/
theorem unique {bytes rest rest' : Bytes} {packets packets' : List Bytes}
    (first : Splits bytes packets rest) (second : Splits bytes packets' rest') :
    packets = packets' ∧ rest = rest' := by
  induction packets generalizing bytes packets' with
  | nil =>
    obtain rfl : rest = bytes := first.joined
    cases packets' with
    | nil => exact ⟨rfl, second.joined.symm⟩
    | cons packet packets' =>
      obtain ⟨whole, joined, _⟩ := second.of_cons
      exact absurd joined.symm (rest_ne whole first.short)
  | cons packet packets ih =>
    obtain ⟨whole, joined, tail⟩ := first.of_cons
    cases packets' with
    | nil =>
      obtain rfl : rest' = bytes := second.joined
      exact absurd joined.symm (rest_ne whole second.short)
    | cons packet' packets' =>
      obtain ⟨whole', joined', tail'⟩ := second.of_cons
      obtain ⟨rfl, same⟩ := packet_unique whole whole' (joined.trans joined'.symm)
      rw [← same] at tail'
      obtain ⟨samePackets, sameRest⟩ := ih tail tail'
      exact ⟨by rw [samePackets], sameRest⟩

/-- All bytes can be split. -/
theorem exists_splits (bytes : Bytes) : ∃ packets rest, Splits bytes packets rest := by
  induction length : bytes.length using Nat.strongRecOn generalizing bytes with
  | ind length ih =>
    cases declared : PacketField.totalLength? bytes with
    | none => exact ⟨[], bytes, nil fun total some => by rw [declared] at some; contradiction⟩
    | some total =>
      by_cases short : bytes.length < total
      · refine ⟨[], bytes, nil fun total' some => ?_⟩
        rw [declared] at some
        exact Option.some.inj some ▸ short
      · have header := PacketField.headerLength_lt_totalLength? declared
        have front : (bytes.take total).length = total := by
          rw [List.length_take]
          omega
        have whole : IsPacket (bytes.take total) := by
          have header : PacketField.headerLength ≤ (bytes.take total).length := by omega
          have same := PacketField.totalLength?_append header (bytes.drop total)
          rw [List.take_append_drop, declared] at same
          rw [IsPacket, front, ← same]
        obtain ⟨packets, rest, splits⟩ := ih (bytes.drop total).length
          (by rw [List.length_drop]; omega) (bytes.drop total) rfl
        have split := cons whole splits
        rw [List.take_append_drop] at split
        exact ⟨_, _, split⟩

end Splits

/-- Nothing at all is the beginning of a packet. -/
theorem isBeginning_nil : IsBeginning [] :=
  ⟨[0, 0, 0, 0, 0, 0, 0], List.cons_ne_nil _ _, by decide⟩

end Downlink
