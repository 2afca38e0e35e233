/-
**Mended streams of many channels.**

Mending compares the counters of neighbouring frames whatever channels they belong to, so that a
frame may be held back behind any number of frames of other channels. It does no harm all the same:
as long as the counters of a channel ascend and none of them is 0, the frames of the channel go out
as they came in, and that is all that a demultiplexer cares for.

* `releasedBy_filter`: items of which each precedes the later ones keep their order, whatever stands
  between them;
* `Demux.framesOf_inOrder`: so do the frames of one channel;
* `Demux.pushAll_rearranged`: streams in which every channel has the same frames do the same to a
  demultiplexer, but for the order of the packets of different channels;
* `PacketQueue.answer_mended`: the packets of mended frames, as they are asked for.
-/

import Downlink.Proofs.Frame.Queue
import Downlink.Proofs.Frame.Sorter

namespace Downlink

/-! ### Items that keep their order -/

/-- Items of which each precedes the later ones go out as they came in, whatever stands between
them. -/
theorem releasedBy_filter {Item : Type} {precedes : Item → Item → Bool} {among : Item → Bool}
    {items : List Item} (inTurn : (items.filter among).Pairwise fun earlier later =>
      precedes earlier later ∧ ¬ precedes later earlier) :
    (releasedBy precedes items).filter among = items.filter among := by
  have perm := (releasedBy_perm precedes items).filter among
  have line := (releasedBy_pairwise precedes (List.pairwise_filter.mp inTurn)).filter among
  -- That one of two items precedes the other says nothing of their places, so it outlives sorting.
  have compared : ((releasedBy precedes items).filter among).Pairwise fun out later =>
      (precedes out later ∧ ¬ precedes later out) ∨ (precedes later out ∧ ¬ precedes out later) :=
    (perm.pairwise_iff Or.symm).mpr (inTurn.imp Or.inl)
  have sorted : ((releasedBy precedes items).filter among).Pairwise fun out later =>
      precedes out later ∧ ¬ precedes later out := by
    refine (line.and compared).imp_of_mem ?_
    intro out later isOut isLater both
    rcases both.1 with ahead | kept
    · exact ahead (List.mem_filter.mp isOut).2 (List.mem_filter.mp isLater).2
    · exact both.2.resolve_right kept
  refine perm.eq_of_pairwise ?_ sorted inTurn
  intro first second _ _ ahead behind
  exact absurd behind.1 ahead.2

/-! ### The frames of one channel -/

/-- Of two frames of one channel, the one that comes first has the lower counter. -/
def CountersAscend (frames : List Bytes) : Prop :=
  frames.Pairwise fun earlier later => FrameField.channel? earlier = FrameField.channel? later →
    ∀ low ∈ FrameField.counter? earlier, ∀ high ∈ FrameField.counter? later, low < high

instance (frames : List Bytes) : Decidable (CountersAscend frames) :=
  inferInstanceAs (Decidable (List.Pairwise _ _))

/-- A frame that starts no round of counting is no padding. -/
theorem isPadding_eq_false {frame : Bytes} (long : 8 ≤ frame.length)
    (counted : ¬ startsRound frame) : isPadding frame = false := by
  rw [isPadding, Bool.or_eq_false_iff, decide_eq_false_iff_not, Nat.not_lt]
  refine ⟨long, Bool.eq_false_iff.mpr fun zeros => counted ?_⟩
  have front : frame.take 8 = List.replicate 8 0 := by
    refine List.eq_replicate_iff.mpr ⟨List.length_take_of_le long, fun byte member => ?_⟩
    exact beq_iff_eq.mp (List.all_eq_true.mp zeros byte member)
  have read : FrameField.counter? frame = some 0 := by
    rw [← List.take_append_drop 8 frame, front, FrameField.counter?,
      Word.u123.read?_append (by decide)]
    decide
  rw [startsRound, read]
  rfl

namespace Demux

variable {geometry : FrameGeometry} {frames others : List Bytes}

/-- The frames of one channel go out as they came in, when its counters ascend from above 0. -/
theorem framesOf_inOrder (headers : ∀ frame ∈ frames, FrameField.headerLength ≤ frame.length)
    (counted : ∀ frame ∈ frames, ¬ startsRound frame) (ascend : CountersAscend frames)
    (channel : Nat) : framesOf channel (inOrder frames) = framesOf channel frames := by
  obtain ⟨same, known⟩ := NumberedFrame.readable_of_headers headers
  have positive : ∀ numbered ∈ NumberedFrame.readable frames, numbered.counter ≠ 0 := by
    intro numbered member zero
    have started := counted numbered.frame (same ▸ List.mem_map_of_mem member)
    rw [(known numbered member).startsRound_eq] at started
    exact started (beq_iff_eq.mpr zero)
  have inTurn : ((NumberedFrame.readable frames).filter
        ((fun frame => FrameField.channel? frame == some channel) ∘ NumberedFrame.frame)).Pairwise
      fun earlier later => earlier.precedes later ∧ ¬ later.precedes earlier := by
    rw [CountersAscend, ← same, List.pairwise_map] at ascend
    refine (ascend.filter _).imp_of_mem ?_
    intro earlier later isEarlier isLater lower
    obtain ⟨inEarlier, ofEarlier⟩ := List.mem_filter.mp isEarlier
    obtain ⟨inLater, ofLater⟩ := List.mem_filter.mp isLater
    have sameChannel := (beq_iff_eq.mp ofEarlier).trans (beq_iff_eq.mp ofLater).symm
    have less := lower sameChannel _ (known earlier inEarlier) _ (known later inLater)
    have goes : earlier.precedes later :=
      NumberedFrame.precedes_iff.mpr ⟨positive earlier inEarlier, Or.inr less⟩
    exact ⟨goes, NumberedFrame.precedes_asymm goes⟩
  calc framesOf channel (inOrder frames)
      = ((NumberedFrame.released (NumberedFrame.readable frames)).filter _).map
          NumberedFrame.frame := List.filter_map
    _ = ((NumberedFrame.readable frames).filter _).map NumberedFrame.frame := by
        rw [NumberedFrame.released_eq, releasedBy_filter inTurn]
    _ = framesOf channel ((NumberedFrame.readable frames).map NumberedFrame.frame) :=
        List.filter_map.symm
    _ = framesOf channel frames := by rw [same]

/-! ### Streams in which every channel has the same frames -/

/-- How a channel ends depends on its frames alone. -/
theorem Alone.channel?_eq {channel : Nat} {demux other : Demux}
    {emitted packets : List FramedPacket} (alone : Alone geometry frames demux emitted channel)
    (beside : Alone geometry others other packets channel)
    (same : framesOf channel frames = framesOf channel others) :
    demux.channel? channel = other.channel? channel := by
  obtain ⟨_, _, ran, _, stored⟩ := alone
  obtain ⟨_, _, ranOther, _, storedOther⟩ := beside
  rw [same, ranOther] at ran
  obtain ⟨rfl, rfl⟩ := Prod.mk.inj (Option.some.inj ran)
  rw [stored, storedOther, same]

/-- Demultiplexers that have the same in every channel are the same. -/
theorem eq_of_channel? {demux other : Demux} (sameGeometry : demux.geometry = other.geometry)
    (sameEnd : demux.isDone = other.isDone)
    (channels : ∀ channel, demux.channel? channel = other.channel? channel) : demux = other := by
  have stored : demux.channels = other.channels := by
    apply Vector.ext
    intro channel inside
    have same := channels channel
    rw [channel?, channel?, Vector.getElem?_eq_getElem inside, Vector.getElem?_eq_getElem inside]
      at same
    exact same
  cases demux
  cases other
  subst sameGeometry sameEnd stored
  rfl

/-- **Only the order within each channel matters.** Two streams that go on to their ends, and in
which every channel has the same frames, leave a demultiplexer the same, and every channel has given
out the same packets. -/
theorem pushAll_rearranged (goOn : ∀ frame ∈ frames, ends geometry frame = false)
    (goOn' : ∀ frame ∈ others, ends geometry frame = false)
    (same : ∀ channel, framesOf channel others = framesOf channel frames) :
    ∃ after packets rearranged,
      ({ geometry } : Demux).pushAll frames = some (after, packets) ∧
      ({ geometry } : Demux).pushAll others = some (after, rearranged) ∧
      ∀ channel, packetsOf channel rearranged = packetsOf channel packets := by
  obtain ⟨after, packets, ran, geometryAfter, openAfter, alone⟩ :=
    pushAll_open goOn rfl rfl (Alone.fresh geometry)
  obtain ⟨after', rearranged, ran', geometryAfter', openAfter', alone'⟩ :=
    pushAll_open goOn' rfl rfl (Alone.fresh geometry)
  have sameAfter : after' = after := by
    apply eq_of_channel? (geometryAfter'.trans geometryAfter.symm)
      (openAfter'.trans openAfter.symm)
    intro channel
    exact (alone' channel).channel?_eq (alone channel) (same channel)
  subst sameAfter
  refine ⟨after', packets, rearranged, ran, ran', fun channel => ?_⟩
  exact (alone' channel).packetsOf_eq (alone channel) (same channel)

/-- **Mending leaves a demultiplexer as it is**, and every channel has given out the same packets,
when the counters of each channel ascend from above 0. -/
theorem pushAll_inOrder (complete : ∀ frame ∈ frames, geometry.frameLength ≤ frame.length)
    (counted : ∀ frame ∈ frames, ¬ startsRound frame) (ascend : CountersAscend frames) :
    ∃ after packets mended,
      ({ geometry } : Demux).pushAll frames = some (after, packets) ∧
      ({ geometry } : Demux).pushAll (inOrder frames) = some (after, mended) ∧
      ∀ channel, packetsOf channel mended = packetsOf channel packets := by
  have header : 6 ≤ geometry.headerLength := geometry.header_le
  have pointerField := geometry.pointer_le
  have zoneField := geometry.zone_le
  have headers : ∀ frame ∈ frames, FrameField.headerLength ≤ frame.length := by
    intro frame member
    have long := complete frame member
    show 6 ≤ frame.length
    omega
  have goOn : ∀ frame ∈ frames, ends geometry frame = false := by
    intro frame member
    have long := complete frame member
    exact ends_eq_false_iff.mpr ⟨long, isPadding_eq_false (by omega) (counted frame member)⟩
  have goOn' : ∀ frame ∈ inOrder frames, ends geometry frame = false := by
    intro frame member
    apply goOn
    obtain ⟨same, _⟩ := NumberedFrame.readable_of_headers headers
    have sorted := (releasedBy_perm NumberedFrame.precedes (NumberedFrame.readable frames)).map
      NumberedFrame.frame
    rw [same, ← NumberedFrame.released_eq] at sorted
    exact sorted.mem_iff.mp member
  exact pushAll_rearranged goOn goOn' (framesOf_inOrder headers counted ascend)

end Demux

namespace PacketQueue

/-- **Mending does no harm to interleaved channels.** As long as the counters of every channel
ascend from above 0, the packets that are asked for of the mended frames are, channel by channel,
those of the frames as they came: none is lost, changed, or out of its turn. -/
theorem answer_mended (geometry : FrameGeometry) {frames : List Bytes}
    (complete : ∀ frame ∈ frames, geometry.frameLength ≤ frame.length)
    (counted : ∀ frame ∈ frames, ¬ startsRound frame) (ascend : CountersAscend frames) :
    ∃ (sorted : List Bytes) (packets mended : List DeliveredPacket),
      (∀ call, answer FrameSorter.next (.of frames) call = (sorted[call]?).map .ok) ∧
      (∀ call, answer next (of geometry frames) call = (packets[call]?).map .ok) ∧
      (∀ call, answer next (of geometry sorted) call = (mended[call]?).map .ok) ∧
      ∀ channel, mended.filter (·.channel == channel) = packets.filter (·.channel == channel) := by
  obtain ⟨after, framed, mended, ran, ran', same⟩ :=
    Demux.pushAll_inOrder complete counted ascend
  have all : framedPackets geometry frames = some framed := by rw [framedPackets, ran]; rfl
  have all' : framedPackets geometry (inOrder frames) = some mended := by
    rw [framedPackets, ran']; rfl
  refine ⟨inOrder frames, framed.map FramedPacket.delivered, mended.map FramedPacket.delivered,
    fun call => ?_, answer_of all, answer_of all', fun channel => ?_⟩
  · rw [(FrameSorter.givesOut_inOrder frames).answer_eq, List.getElem?_map]
  · rw [← delivered_packetsOf, ← delivered_packetsOf, same]

/-- A packet of channel 5 in two frames, and one of channel 6. The frames of channel 6 have the
lower counters, but come second. -/
def crossedFrames : List Bytes :=
  [[64, 5, 0, 0, 3, 0, 0, 0, 8, 1, 192, 0, 0, 99], [64, 6, 0, 0, 1, 0, 0, 0, 8, 2, 192, 0, 0, 99],
    [64, 5, 0, 0, 4, 0, 7, 255, 0, 17, 99, 99, 99, 99],
    [64, 6, 0, 0, 2, 0, 0, 2, 0, 34, 8, 2, 192, 99]]

theorem answer_crossedFrames :
    (∀ frame ∈ crossedFrames, FrameGeometry.shortZones.frameLength ≤ frame.length) ∧
      (∀ frame ∈ crossedFrames, ¬ startsRound frame) ∧ CountersAscend crossedFrames ∧
      inOrder crossedFrames ≠ crossedFrames ∧
      ∃ (sorted : List Bytes) (packets mended : List DeliveredPacket),
        (∀ call, answer FrameSorter.next (.of crossedFrames) call = (sorted[call]?).map .ok) ∧
        (∀ call, answer next (of .shortZones crossedFrames) call = (packets[call]?).map .ok) ∧
        (∀ call, answer next (of .shortZones sorted) call = (mended[call]?).map .ok) ∧
        ∀ channel,
          mended.filter (·.channel == channel) = packets.filter (·.channel == channel) := by
  have complete : ∀ frame ∈ crossedFrames,
      FrameGeometry.shortZones.frameLength ≤ frame.length := by decide
  have counted : ∀ frame ∈ crossedFrames, ¬ startsRound frame := by decide
  have ascend : CountersAscend crossedFrames := by decide
  exact ⟨complete, counted, ascend, by decide, answer_mended .shortZones complete counted ascend⟩

end PacketQueue

end Downlink
