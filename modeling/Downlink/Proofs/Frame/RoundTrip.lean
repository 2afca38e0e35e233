/-
**Packets through frames and back.**

`pushAll_fresh_carriedBy`: however packets lie in the zones of frames, a channel that is given the
frames from the first on gives the packets out again, byte for byte, in order and all valid, and
counts no loss. Headers and packets may be cut anywhere and zones may be shorter than a header; the
counters may start anywhere and pass their end.

What is given out can only lag behind by one packet: when the last packet fills the last zone, and
nothing starts there that would show its end, it is still pending (`Stretch.EndsOpen`).
-/

import Downlink.Proofs.Frame.Tracking

namespace Downlink

/-- **Reassembly gives back what was laid into the frames.** -/
theorem Reassembler.pushAll_fresh_carriedBy {geometry : FrameGeometry}
    (pointable : geometry.Pointable) {stretch : Stretch} (noLead : stretch.lead = [])
    {first : Nat} {frames : List Bytes} (carried : stretch.CarriedBy geometry first frames)
    (channel : Nat) :
    ∃ after emitted, (fresh channel geometry).pushAll frames = some (after, emitted) ∧
      Delivers emitted (stretch.completed geometry.zoneLength frames.length) ∧
      after.pending = stretch.unfinished geometry.zoneLength frames.length ∧
      after.stats = { frames := frames.length, packets := emitted.length } := by
  cases frames with
  | nil =>
    obtain ⟨none, nothing⟩ := carried.nil
    refine ⟨fresh channel geometry, [], rfl, ?_, ?_, rfl⟩
    · rw [Stretch.completed, none, List.dropLast_nil, ite_self]
      exact .nil
    · rw [Stretch.unfinished, none, nothing, List.getLast?_nil, Option.getD_none, ite_self]
      rfl
  | cons frame frames =>
    obtain ⟨tail, missing, completion⟩ := stretch.exists_completion
    obtain ⟨left', rest, feeds, length⟩ := carried.feeds completion
    have short : stretch.lead.length < geometry.zoneLength := by
      rw [noLead]
      exact geometry.zone_pos
    obtain ⟨after, emitted, delivered, ran, delivers, inStep, split, stats⟩ :=
      pushAll_first pointable feeds short completion.whole (fresh channel geometry) rfl rfl
    rw [← getLast?_cons_eq] at inStep
    obtain ⟨sameDelivered, samePending⟩ := inStep.delivered_eq (List.cons_ne_nil _ _)
      (run_same ran).2 pointable carried completion completion.whole split length
    rw [sameDelivered] at delivers
    refine ⟨after, emitted, ran, delivers, samePending, ?_⟩
    rw [stats]
    simp only [ReassemblyStats.gained, fresh, Nat.zero_add, List.length_cons]

/-- A geometry whose zones are shorter than the header of a packet. -/
def FrameGeometry.shortZones : FrameGeometry where
  frameLength := 14
  headerLength := 6
  zoneStart := 8
  zoneLength := 5
  idlePointer := 0x7fe
  header_le := by decide
  pointer_le := by decide
  zone_pos := by decide
  zone_le := by decide

/-- Two packets, of seven and of eight bytes. -/
def Stretch.twoPackets : Stretch where
  lead := []
  packets := [[8, 1, 192, 0, 0, 0, 17], [8, 1, 192, 1, 0, 1, 34, 35]]
  trailing := []
  whole := by decide
  beginning := isBeginning_nil

/-- Frames of channel 5 with the two packets. The counter passes its end, both headers are cut, and
the second packet fills the last zone. -/
def twoPacketFrames : List Bytes :=
  [[64, 5, 255, 255, 255, 0, 0, 0, 8, 1, 192, 0, 0, 99],
    [64, 5, 0, 0, 0, 0, 0, 2, 0, 17, 8, 1, 192, 99],
    [64, 5, 0, 0, 1, 128, 7, 255, 1, 0, 1, 34, 35, 99]]

theorem Reassembler.pushAll_twoPacketFrames :
    FrameGeometry.shortZones.Pointable ∧ Stretch.twoPackets.lead = [] ∧
      Stretch.twoPackets.CarriedBy .shortZones 0xffffff twoPacketFrames ∧
      ∃ after emitted,
        (fresh 5 .shortZones).pushAll twoPacketFrames = some (after, emitted) ∧
        Delivers emitted (Stretch.twoPackets.completed 5 3) ∧
        after.pending = Stretch.twoPackets.unfinished 5 3 ∧
        after.stats = { frames := 3, packets := emitted.length } := by
  have pointable : FrameGeometry.shortZones.Pointable := ⟨by decide, by decide⟩
  have carried : Stretch.twoPackets.CarriedBy .shortZones 0xffffff twoPacketFrames := by decide
  exact ⟨pointable, rfl, carried, pushAll_fresh_carriedBy pointable rfl carried 5⟩

end Downlink
