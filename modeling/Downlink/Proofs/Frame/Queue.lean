/-
**One channel out of many.**

Whether the frames of the other channels are passed over beforehand, or their packets afterwards,
what is left is the same:

* `framesBefore_filter`: of the frames that matter to a channel, those before the end are its own;
* `channelPackets_eq`: so its packets are those that it has among the packets of all channels;
* `PacketQueue.givesOut_pushAll`: asked for one at a time, the packets are those that the frames
  complete when they are all taken at once;
* `PacketQueue.answer_ofChannel`: both together.
-/

import Downlink.Frame.Queue
import Downlink.Proofs.Answers
import Downlink.Proofs.Frame.Isolation

namespace Downlink

namespace Demux

variable {geometry : FrameGeometry} {channel : Nat} {frames : List Bytes}

/-! ### The frames that matter to a channel -/

theorem framesOf_framesOf (channel : Nat) (frames : List Bytes) :
    framesOf channel (framesOf channel frames) = framesOf channel frames := by
  unfold framesOf
  simp only [List.filter_filter, Bool.and_self]

/-- Frames of one channel are none of another. -/
theorem framesOf_other {other : Nat} (different : channel ≠ other) (frames : List Bytes) :
    framesOf other (framesOf channel frames) = [] := by
  refine List.filter_eq_nil_iff.mpr fun frame member read => ?_
  have mine := beq_iff_eq.mp (List.mem_filter.mp member).2
  rw [mine] at read
  exact different (Option.some.inj (beq_iff_eq.mp read))

/-- Of the frames that matter to a channel, those before the end are its own. -/
theorem framesBefore_filter (geometry : FrameGeometry) (channel : Nat) (frames : List Bytes) :
    framesBefore geometry (frames.filter (concerns geometry channel)) =
      framesOf channel (framesBefore geometry frames) := by
  unfold framesBefore framesOf
  induction frames with
  | nil => rfl
  | cons frame frames ih =>
    cases ending : ends geometry frame with
    | true => simp [concerns, ending]
    | false =>
      by_cases mine : FrameField.channel? frame = some channel
      · simp [concerns, ending, mine, ih]
      · simp [concerns, ending, mine, ih]

/-! ### The packets of a channel -/

/-- A channel without frames has no packets. -/
theorem Alone.packetsOf_eq_nil {given : List Bytes} {demux : Demux} {emitted : List FramedPacket}
    (alone : Alone geometry given demux emitted channel) (none : framesOf channel given = []) :
    packetsOf channel emitted = [] := by
  obtain ⟨reassembler, packets, ran, mine, _⟩ := alone
  rw [none] at ran
  rw [mine]
  exact (Prod.mk.inj (Option.some.inj ran)).2.symm

/-- A channel's packets depend on its frames alone. -/
theorem Alone.packetsOf_eq {given others : List Bytes} {demux other : Demux}
    {emitted packets : List FramedPacket} (alone : Alone geometry given demux emitted channel)
    (beside : Alone geometry others other packets channel)
    (same : framesOf channel given = framesOf channel others) :
    packetsOf channel emitted = packetsOf channel packets := by
  obtain ⟨_, _, ran, mine, _⟩ := alone
  obtain ⟨_, _, ranOther, mineOther, _⟩ := beside
  rw [same, ranOther] at ran
  rw [mine, mineOther]
  exact (Prod.mk.inj (Option.some.inj ran)).2.symm

/-- **The packets of one channel are those that it has among the packets of all.** -/
theorem channelPackets_eq (geometry : FrameGeometry) (channel : Nat) (frames : List Bytes) :
    ∃ packets, framedPackets geometry frames = some packets ∧
      channelPackets geometry channel frames = some (packetsOf channel packets) := by
  obtain ⟨after, packets, ran, alone, _⟩ := exists_pushAll geometry frames
  obtain ⟨selected, mine, ranSelected, aloneSelected, _⟩ :=
    exists_pushAll geometry (frames.filter (concerns geometry channel))
  rw [framesBefore_filter] at aloneSelected
  have own : packetsOf channel mine = packetsOf channel packets :=
    (aloneSelected channel).packetsOf_eq (alone channel) (framesOf_framesOf channel _)
  -- No other channel has packets among the selected ones, as it has no frames there.
  have marked : ∀ packet ∈ mine, packet.channel = channel := by
    intro packet member
    refine Decidable.byContradiction fun different => ?_
    have none := (aloneSelected packet.channel).packetsOf_eq_nil
      (framesOf_other (Ne.symm different) _)
    exact List.filter_eq_nil_iff.mp none packet member (beq_self_eq_true packet.channel)
  refine ⟨packets, by rw [framedPackets, ran]; rfl, ?_⟩
  rw [channelPackets, framedPackets, ranSelected, ← own, packetsOf_self marked]
  rfl

end Demux

namespace PacketQueue

variable {geometry : FrameGeometry} {frames : List Bytes} {demux after : Demux}
  {packets : List FramedPacket}

/-- What is given out for a packet. -/
def given (packet : FramedPacket) : Except Breach DeliveredPacket :=
  .ok packet.delivered

/-- The packets that wait come before those of further frames. -/
theorem givesOut_ready {items : List (Except Breach DeliveredPacket)}
    (gives : GivesOut next ⟨frames, demux, []⟩ items) (ready : List DeliveredPacket) :
    GivesOut next ⟨frames, demux, ready⟩ (ready.map .ok ++ items) := by
  induction ready with
  | nil => exact gives
  | cons packet ready ih => exact .cons rfl ih

/-- A queue whose stream has ended gives out nothing. -/
theorem next_done (isDone : demux.isDone = true) (frames : List Bytes) :
    next ⟨frames, demux, []⟩ = (none, ⟨frames, demux, []⟩) :=
  if_pos isDone

section NextFrame

variable {middle : Demux} {frame : Bytes} {accepted : Bool} (isOpen : ¬demux.isDone = true)
include isOpen

/-- Of the packets that a frame completes, the first goes out and the others wait. -/
theorem next_completed {packet : FramedPacket} {waiting : List FramedPacket}
    (pushed : demux.push frame = some (middle, ⟨accepted, packet :: waiting⟩)) :
    next ⟨frame :: frames, demux, []⟩ =
      (some (given packet), ⟨frames, middle, waiting.map FramedPacket.delivered⟩) := by
  refine (if_neg isOpen).trans ?_
  rw [advance, pushed]
  rfl

/-- A frame that completes nothing leaves what comes next to the frames behind it. -/
theorem next_silent (pushed : demux.push frame = some (middle, ⟨accepted, []⟩)) :
    next ⟨frame :: frames, demux, []⟩ = next ⟨frames, middle, []⟩ := by
  refine (if_neg isOpen).trans ?_
  rw [advance, pushed]
  rfl

end NextFrame

/-- **Asked for one at a time, the packets are those of all frames taken at once.** -/
theorem givesOut_pushAll (ran : demux.pushAll frames = some (after, packets)) :
    GivesOut next ⟨frames, demux, []⟩ (packets.map given) := by
  induction frames generalizing demux packets with
  | nil =>
    obtain ⟨rfl, rfl⟩ := Prod.mk.inj (Option.some.inj ran)
    have nothing : next ⟨[], demux, []⟩ = (none, ⟨[], demux, []⟩) := ite_self _
    exact .nil nothing nothing
  | cons frame frames ih =>
    by_cases isDone : demux.isDone = true
    · rw [Demux.pushAll_done isDone] at ran
      obtain ⟨_, rfl⟩ := Prod.mk.inj (Option.some.inj ran)
      exact .nil (next_done isDone _) (next_done isDone _)
    obtain ⟨middle, accepted, completed, others, pushed, continued, rfl⟩ :=
      Demux.exists_of_pushAll_cons ran
    have later : GivesOut next ⟨frames, middle, []⟩ (others.map given) := ih continued
    cases completed with
    | nil => exact .of_next_eq (next_silent isDone pushed) later
    | cons packet waiting =>
      rw [List.map_append]
      have rest := givesOut_ready later (waiting.map FramedPacket.delivered)
      rw [List.map_map] at rest
      exact .cons (next_completed isDone pushed) rest

/-- What a queue answers is what the frames complete, one packet at a call. -/
theorem answer_of (ran : framedPackets geometry frames = some packets) (call : Nat) :
    answer next (of geometry frames) call =
      ((packets.map FramedPacket.delivered)[call]?).map .ok := by
  obtain ⟨⟨after, _⟩, pushed, rfl⟩ := Option.map_eq_some_iff.mp ran
  rw [← List.getElem?_map, List.map_map]
  exact (givesOut_pushAll pushed).answer_eq call

/-- Copies know their channel. -/
theorem delivered_packetsOf (channel : Nat) (packets : List FramedPacket) :
    (Demux.packetsOf channel packets).map FramedPacket.delivered =
      (packets.map FramedPacket.delivered).filter (·.channel == channel) := by
  rw [List.filter_map]
  rfl

/-- **The packets of one channel, as they are asked for, are those that it has among the packets of
all channels**, in the same order and none of them changed. Neither stream ever fails, and both say
nothing more when their packets are at an end. -/
theorem answer_ofChannel (geometry : FrameGeometry) (channel : Nat) (frames : List Bytes) :
    ∃ framed packets, framedPackets geometry frames = some framed ∧
      channelPackets geometry channel frames = some (Demux.packetsOf channel framed) ∧
      packets = framed.map FramedPacket.delivered ∧
      (∀ call, answer next (of geometry frames) call = (packets[call]?).map .ok) ∧
      ∀ call, answer next (ofChannel geometry channel frames) call =
        ((packets.filter (·.channel == channel))[call]?).map .ok := by
  obtain ⟨framed, all, own⟩ := Demux.channelPackets_eq geometry channel frames
  refine ⟨framed, framed.map FramedPacket.delivered, all, own, rfl, answer_of all, fun call => ?_⟩
  rw [← delivered_packetsOf]
  exact answer_of own call

end PacketQueue

end Downlink
