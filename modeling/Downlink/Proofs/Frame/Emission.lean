/-
**What a channel gives out.**

The steps of a reassembler, one law each, so that nothing that follows has to look inside them:

* `emit_short`, `emit_long`: the pending bytes are given out when they hold a header, and marked
  valid exactly when they are a packet;
* `append_fits`, `append_overflow`: the pending bytes grow up to the longest packet;
* `finish_nothing`, `finish_fits`, `finish_overflow`: what the bytes before a start do;
* `extract_eq`, `exists_extract`: the rest of a zone is split into packets (`Splits`), which are all
  given out, and what is left over becomes pending.
-/

import Downlink.Proofs.Frame.Contents
import Downlink.Proofs.Packet.Split

namespace Downlink

/-- A packet is marked with where it came from, and as valid exactly when its bytes are a packet. -/
structure FramedPacket.Marked (packet : FramedPacket) (spacecraft channel : Nat) : Prop where
  valid : packet.valid = decide (IsPacket packet.view.bytes)
  spacecraft : packet.spacecraft = spacecraft
  channel : packet.channel = channel

namespace Reassembler

variable (reassembler : Reassembler) (spacecraft : Nat)

/-! ### Giving out the pending bytes -/

/-- Pending bytes without a whole header are given up. -/
theorem emit_short (short : reassembler.pending.length < PacketField.headerLength) :
    reassembler.emit spacecraft =
      ({ reassembler with
        pending := []
        stats.lengthMismatches := reassembler.stats.lengthMismatches + 1
        stats.bytesDiscarded := reassembler.stats.bytesDiscarded + reassembler.pending.length },
        []) := by
  unfold emit
  rw [(PacketView.of?_eq_none_iff _).mpr short]

/-- Pending bytes with a header are given out, and marked valid exactly when they are a packet. -/
theorem emit_long (long : PacketField.headerLength ≤ reassembler.pending.length) :
    ∃ packet : FramedPacket,
      reassembler.emit spacecraft =
        ({ reassembler with
          pending := []
          stats.packets := reassembler.stats.packets + 1
          stats.lengthMismatches := reassembler.stats.lengthMismatches +
            if IsPacket reassembler.pending then 0 else 1 }, [packet]) ∧
      packet.view.bytes = reassembler.pending ∧ packet.Marked spacecraft reassembler.channel := by
  have some : PacketView.of? reassembler.pending ≠ none := by
    rw [Ne, PacketView.of?_eq_none_iff]
    omega
  obtain ⟨view, made⟩ := Option.ne_none_iff_exists'.mp some
  have bytes := PacketView.bytes_of? made
  have judged : (view.totalLength == reassembler.pending.length) =
      decide (IsPacket reassembler.pending) := by
    have declared := view.totalLength?_bytes
    rw [bytes] at declared
    rw [Bool.eq_iff_iff, beq_iff_eq, decide_eq_true_iff, IsPacket, declared, Option.some.injEq]
  refine ⟨⟨spacecraft, reassembler.channel, view, decide (IsPacket reassembler.pending)⟩, ?_,
    bytes, ⟨by rw [bytes], rfl, rfl⟩⟩
  unfold emit
  simp only [made, judged, decide_eq_true_eq]

/-- A pending packet is given out as a valid one. -/
theorem emit_whole (whole : IsPacket reassembler.pending) :
    ∃ packet : FramedPacket,
      reassembler.emit spacecraft =
        ({ reassembler with
          pending := []
          stats.packets := reassembler.stats.packets + 1 }, [packet]) ∧
      packet.view.bytes = reassembler.pending ∧ packet.Marked spacecraft reassembler.channel := by
  obtain ⟨packet, emitted, marked⟩ :=
    reassembler.emit_long spacecraft (Nat.le_of_lt whole.headerLength_lt)
  rw [if_pos whole, Nat.add_zero] at emitted
  exact ⟨packet, emitted, marked⟩

/-! ### Continuing the pending bytes -/

theorem append_fits {bytes : Bytes}
    (fits : reassembler.pending.length + bytes.length ≤ PacketField.longestPacket) :
    reassembler.append bytes = { reassembler with pending := reassembler.pending ++ bytes } :=
  if_neg (Nat.not_lt.mpr fits)

theorem append_overflow {bytes : Bytes}
    (long : PacketField.longestPacket < reassembler.pending.length + bytes.length) :
    reassembler.append bytes = reassembler.reset :=
  if_pos long

/-- Before a start, bytes that continue nothing are lost. -/
theorem finish_nothing (bytes : Bytes) (nothing : reassembler.pending = []) :
    reassembler.finish spacecraft bytes =
      ({ reassembler with
        stats.bytesDiscarded := reassembler.stats.bytesDiscarded + bytes.length }, []) := by
  unfold finish
  rw [nothing]
  rfl

variable (running : reassembler.state = .running)
include running

/-- Before a start, bytes that fit end the pending packet. -/
theorem finish_fits {bytes : Bytes} (something : reassembler.pending ≠ [])
    (fits : reassembler.pending.length + bytes.length ≤ PacketField.longestPacket) :
    reassembler.finish spacecraft bytes =
      { reassembler with pending := reassembler.pending ++ bytes }.emit spacecraft := by
  unfold finish
  rw [if_neg (by simpa using something), append_fits _ fits]
  exact if_pos running

/-- Before a start, bytes that make the pending packet longer than any are lost with it. -/
theorem finish_overflow {bytes : Bytes} (something : reassembler.pending ≠ [])
    (long : PacketField.longestPacket < reassembler.pending.length + bytes.length) :
    reassembler.finish spacecraft bytes =
      ({ reassembler with
        pending := []
        stats.bytesDiscarded :=
          reassembler.stats.bytesDiscarded + reassembler.pending.length }, []) := by
  unfold finish
  rw [if_neg (by simpa using something), append_overflow _ long]
  simp only [reset, reduceCtorEq, if_false, running]

omit running

/-! ### Taking a zone apart -/

/-- Bytes without a whole packet in front become pending. -/
theorem extract_rest (reassembler : Reassembler) (spacecraft : Nat) {zone : Bytes}
    (short : ∀ total, PacketField.totalLength? zone = some total → zone.length < total) :
    reassembler.extract spacecraft zone = ({ reassembler with pending := zone }, []) := by
  rw [extract]
  split
  · rfl
  · rename_i total declared
    exact if_pos (short total declared)

/-- A packet in front becomes pending and is given out before the rest is looked at. -/
theorem extract_packet (reassembler : Reassembler) (spacecraft : Nat) {packet : Bytes}
    (zone : Bytes) (whole : IsPacket packet) :
    reassembler.extract spacecraft (packet ++ zone) =
      let emptied := { reassembler with pending := packet }.emit spacecraft
      let extracted := emptied.1.extract spacecraft zone
      (extracted.1, emptied.2 ++ extracted.2) := by
  have declared := whole.totalLength?_append zone
  rw [extract]
  split
  · rename_i undeclared
    rw [declared] at undeclared
    contradiction
  · rename_i total declared'
    rw [declared] at declared'
    obtain rfl := Option.some.inj declared'
    rw [if_neg (by rw [List.length_append]; omega), List.take_left, List.drop_left]

/-- A packet in front is given out as it is. -/
theorem extract_cons (reassembler : Reassembler) (spacecraft : Nat) {packet : Bytes} (zone : Bytes)
    (whole : IsPacket packet) :
    ∃ first : FramedPacket,
      first.view.bytes = packet ∧ first.Marked spacecraft reassembler.channel ∧
      reassembler.extract spacecraft (packet ++ zone) =
        let (after, others) := { reassembler with
          pending := []
          stats.packets := reassembler.stats.packets + 1 }.extract spacecraft zone
        (after, first :: others) := by
  obtain ⟨first, emitted, bytes, marked⟩ :=
    { reassembler with pending := packet }.emit_whole spacecraft whole
  refine ⟨first, bytes, marked, ?_⟩
  rw [extract_packet _ _ _ whole, emitted]
  rfl

/-- **The rest of a zone is split into packets**, which are all given out; what is left over becomes
pending. -/
theorem extract_eq (reassembler : Reassembler) (spacecraft : Nat) {zone rest : Bytes}
    {packets : List Bytes} (splits : Splits zone packets rest) :
    ∃ emitted,
      reassembler.extract spacecraft zone =
        ({ reassembler with
          pending := rest
          stats.packets := reassembler.stats.packets + packets.length }, emitted) ∧
      emitted.map (·.view.bytes) = packets ∧
      ∀ packet ∈ emitted, packet.Marked spacecraft reassembler.channel := by
  induction packets generalizing reassembler zone with
  | nil =>
    obtain rfl : rest = zone := splits.joined
    exact ⟨[], reassembler.extract_rest spacecraft splits.short, rfl,
      List.forall_mem_nil _⟩
  | cons packet packets ih =>
    obtain ⟨whole, joined, tail⟩ := splits.of_cons
    obtain ⟨first, bytes, marked, extracted⟩ :=
      reassembler.extract_cons spacecraft (packets.flatten ++ rest) whole
    obtain ⟨others, continued, collected, allMarked⟩ := ih { reassembler with
      pending := []
      stats.packets := reassembler.stats.packets + 1 } tail
    refine ⟨first :: others, ?_, by rw [List.map_cons, bytes, collected],
      List.forall_mem_cons.mpr ⟨marked, allMarked⟩⟩
    rw [← joined, extracted, continued, List.length_cons, Nat.add_right_comm, Nat.add_assoc]

/-- Every zone is split into packets, which are given out, and a rest, which becomes pending. -/
theorem exists_extract (reassembler : Reassembler) (spacecraft : Nat) (zone : Bytes) :
    ∃ packets rest emitted, Splits zone packets rest ∧
      reassembler.extract spacecraft zone =
        ({ reassembler with
          pending := rest
          stats.packets := reassembler.stats.packets + packets.length }, emitted) ∧
      emitted.map (·.view.bytes) = packets ∧
      ∀ packet ∈ emitted, packet.Marked spacecraft reassembler.channel := by
  obtain ⟨packets, rest, splits⟩ := Splits.exists_splits zone
  obtain ⟨emitted, extracted⟩ := reassembler.extract_eq spacecraft splits
  exact ⟨packets, rest, emitted, splits, extracted⟩

end Reassembler

end Downlink
