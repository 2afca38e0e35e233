/-
**No channel knows of the others.**

However the frames of the channels are interleaved, each channel gives out the packets, and ends in
the state, that it would if it were given its own frames alone (`Alone`). The first frame that is
too short or padding ends the stream for all of them.

* `alone_push`: a frame keeps every channel as it would be alone;
* `pushAll_open`: so do all frames before the one that ends the stream;
* `pushAll_done`: those behind it change nothing;
* `channelsSeen_eq`, `count_stats`: what is asked of all channels together.
-/

import Downlink.Frame.Demux
import Downlink.Proofs.Frame.Run

namespace Downlink

namespace FrameField

theorem channel?_lt {frame : Bytes} {channel : Nat} (read : channel? frame = some channel) :
    channel < channelCount := by
  obtain ⟨byte, _, rfl⟩ := Option.map_eq_some_iff.mp read
  exact Nat.mod_lt _ (by decide)

/-- A frame of two bytes or more belongs to a channel. -/
theorem exists_channel? {frame : Bytes} (long : 2 ≤ frame.length) :
    ∃ channel, channel? frame = some channel := by
  obtain ⟨byte, read⟩ := Word.u1.exists_read? frame 1 long
  exact ⟨byte % channelCount, by rw [channel?, read, Option.map_some]⟩

end FrameField

namespace Demux

/-- The frames before the first one that ends the stream. -/
def framesBefore (geometry : FrameGeometry) (frames : List Bytes) : List Bytes :=
  frames.takeWhile fun frame => !ends geometry frame

/-- The frames of one channel. -/
def framesOf (channel : Nat) (frames : List Bytes) : List Bytes :=
  frames.filter fun frame => FrameField.channel? frame == some channel

/-- The packets of one channel. -/
def packetsOf (channel : Nat) (packets : List FramedPacket) : List FramedPacket :=
  packets.filter fun packet => packet.channel == channel

/-- A channel has given out the packets, and is in the state, that it comes to when it is given its
own frames alone. It has been made when there are any. -/
def Alone (geometry : FrameGeometry) (given : List Bytes) (demux : Demux)
    (emitted : List FramedPacket) (channel : Nat) : Prop :=
  ∃ reassembler packets,
    (Reassembler.fresh channel geometry).pushAll (framesOf channel given) =
      some (reassembler, packets) ∧
    packetsOf channel emitted = packets ∧
    demux.channel? channel = if framesOf channel given = [] then none else some reassembler

variable {geometry : FrameGeometry} {given : List Bytes} {demux : Demux}
  {emitted : List FramedPacket} {channel : Nat} {frame : Bytes}

/-! ### Frames and packets of one channel -/

theorem framesOf_concat_self (read : FrameField.channel? frame = some channel)
    (given : List Bytes) :
    framesOf channel (given ++ [frame]) = framesOf channel given ++ [frame] := by
  simp [framesOf, read]

theorem framesOf_concat_other {other : Nat} (read : FrameField.channel? frame = some other)
    (different : other ≠ channel) (given : List Bytes) :
    framesOf channel (given ++ [frame]) = framesOf channel given := by
  simp [framesOf, read, different]

theorem packetsOf_self {packets : List FramedPacket}
    (marked : ∀ packet ∈ packets, packet.channel = channel) : packetsOf channel packets = packets :=
  List.filter_eq_self.mpr fun packet member => beq_iff_eq.mpr (marked packet member)

theorem packetsOf_other {packets : List FramedPacket} {other : Nat}
    (marked : ∀ packet ∈ packets, packet.channel = other) (different : other ≠ channel) :
    packetsOf channel packets = [] :=
  List.filter_eq_nil_iff.mpr fun packet member same =>
    different ((marked packet member).symm.trans (beq_iff_eq.mp same))

theorem packetsOf_append (packets others : List FramedPacket) :
    packetsOf channel (packets ++ others) = packetsOf channel packets ++ packetsOf channel others :=
  List.filter_append _ _

/-! ### The channels of a demultiplexer -/

theorem channel?_fresh (geometry : FrameGeometry) (channel : Nat) :
    ({ geometry } : Demux).channel? channel = none := by
  unfold channel?
  rw [Vector.getElem?_replicate]
  split
  · rfl
  · rfl

/-- The demultiplexer with this reassembler for a channel. -/
def store (demux : Demux) (channel : Nat) (reassembler : Reassembler) : Demux :=
  { demux with channels := demux.channels.setIfInBounds channel (some reassembler) }

theorem channel?_store {owner : Nat} (inside : owner < channelCount) (reassembler : Reassembler)
    (channel : Nat) :
    (demux.store owner reassembler).channel? channel =
      if owner = channel then some reassembler else demux.channel? channel := by
  unfold store channel?
  rw [Vector.getElem?_setIfInBounds]
  by_cases same : owner = channel
  · rw [if_pos same, if_pos inside, if_pos same]
    rfl
  · rw [if_neg same, if_neg same]

theorem Alone.fresh (geometry : FrameGeometry) (channel : Nat) :
    Alone geometry [] { geometry } [] channel :=
  ⟨Reassembler.fresh channel geometry, [], rfl, rfl, channel?_fresh geometry channel⟩

/-- Whether or not a channel has been made, its next frame meets it as it would be alone. -/
theorem Alone.known {reassembler : Reassembler} {packets : List FramedPacket}
    (ran : (Reassembler.fresh channel geometry).pushAll (framesOf channel given) =
      some (reassembler, packets))
    (stored : demux.channel? channel =
      if framesOf channel given = [] then none else some reassembler) :
    (demux.channel? channel).getD (Reassembler.fresh channel geometry) = reassembler := by
  rw [stored]
  by_cases none : framesOf channel given = []
  · rw [none] at ran
    rw [if_pos none]
    exact (Prod.mk.inj (Option.some.inj ran)).1
  · rw [if_neg none]
    rfl

theorem ends_eq_false_iff :
    ends geometry frame = false ↔
      geometry.frameLength ≤ frame.length ∧ isPadding frame = false := by
  rw [ends, Bool.or_eq_false_iff, decide_eq_false_iff_not, Nat.not_lt]

/-- A frame of full length belongs to a channel. -/
theorem exists_owner (complete : geometry.frameLength ≤ frame.length) :
    ∃ owner, FrameField.channel? frame = some owner := by
  have header : 6 ≤ geometry.headerLength := geometry.header_le
  have pointerField := geometry.pointer_le
  have zoneField := geometry.zone_le
  exact FrameField.exists_channel? (by omega)

/-- A frame is taken by the reassembler of its channel, which is stored again. -/
theorem push_eq {owner : Nat} {known next : Reassembler} {packets : List FramedPacket}
    (isOpen : demux.isDone = false) (goesOn : ends demux.geometry frame = false)
    (read : FrameField.channel? frame = some owner)
    (found : (demux.channel? owner).getD (Reassembler.fresh owner demux.geometry) = known)
    (pushed : known.push frame = some (next, packets)) :
    demux.push frame = some (demux.store owner next, ⟨true, packets⟩) := by
  have met : (demux.channel? owner).getD { channel := owner, geometry := demux.geometry } =
      known := found
  simp only [push, store, isOpen, goesOn, Bool.false_eq_true, if_false, read, met, pushed,
    Option.bind_eq_bind, Option.bind_some, Option.pure_def]

/-- The channel that a frame belongs to takes it as it would alone. -/
theorem Alone.own {known next : Reassembler} {packets : List FramedPacket}
    (read : FrameField.channel? frame = some channel)
    (ran : (Reassembler.fresh channel geometry).pushAll (framesOf channel given) =
      some (known, packetsOf channel emitted))
    (last : known.pushAll [frame] = some (next, packets))
    (marked : ∀ packet ∈ packets, packet.channel = channel) :
    Alone geometry (given ++ [frame]) (demux.store channel next) (emitted ++ packets) channel := by
  refine ⟨next, packetsOf channel emitted ++ packets, ?_, ?_, ?_⟩
  · rw [framesOf_concat_self read]
    exact Reassembler.pushAll_append ran last
  · rw [packetsOf_append, packetsOf_self marked]
  · rw [channel?_store (FrameField.channel?_lt read), if_pos rfl, framesOf_concat_self read,
      if_neg (List.append_ne_nil_of_right_ne_nil _ (List.cons_ne_nil _ _))]

/-- The other channels do not see a frame. -/
theorem Alone.other {owner : Nat} {packets : List FramedPacket} (next : Reassembler)
    (alone : Alone geometry given demux emitted channel)
    (read : FrameField.channel? frame = some owner) (different : owner ≠ channel)
    (marked : ∀ packet ∈ packets, packet.channel = owner) :
    Alone geometry (given ++ [frame]) (demux.store owner next) (emitted ++ packets) channel := by
  obtain ⟨reassembler, others, ran, taken, stored⟩ := alone
  refine ⟨reassembler, others, ?_, ?_, ?_⟩
  · rw [framesOf_concat_other read different]
    exact ran
  · rw [packetsOf_append, packetsOf_other marked different, taken, List.append_nil]
  · rw [channel?_store (FrameField.channel?_lt read), if_neg different,
      framesOf_concat_other read different]
    exact stored

/-- **A frame keeps every channel as it would be alone.** -/
theorem alone_push (same : demux.geometry = geometry) (isOpen : demux.isDone = false)
    (goesOn : ends geometry frame = false)
    (alone : ∀ channel, Alone geometry given demux emitted channel) :
    ∃ after packets, demux.push frame = some (after, ⟨true, packets⟩) ∧
      after.geometry = geometry ∧ after.isDone = false ∧
      ∀ channel, Alone geometry (given ++ [frame]) after (emitted ++ packets) channel := by
  subst same
  have complete := (ends_eq_false_iff.mp goesOn).1
  obtain ⟨owner, read⟩ := exists_owner complete
  obtain ⟨known, earlier, ran, rfl, stored⟩ := alone owner
  have kept := Reassembler.run_same ran
  have sameGeometry : known.geometry = demux.geometry := kept.2
  obtain ⟨contents, held⟩ := FrameGeometry.exists_contents complete
  rw [← sameGeometry] at held
  have last : known.pushAll [frame] = some ((known.accept contents).1,
      (known.accept contents).2 ++ []) := Reassembler.pushAll_cons held rfl rfl
  rw [List.append_nil] at last
  have marked : ∀ packet ∈ (known.accept contents).2, packet.channel = owner :=
    fun packet member => (known.accept_marked contents packet member).channel.trans kept.1
  refine ⟨demux.store owner (known.accept contents).1, (known.accept contents).2,
    push_eq isOpen goesOn read (Alone.known ran stored) (Reassembler.push_eq_accept held), rfl,
    isOpen, fun channel => ?_⟩
  by_cases mine : owner = channel
  · subst mine
    exact .own read ran last marked
  · exact (alone channel).other _ read mine marked

/-! ### The frames before and after the end -/

/-- Frames that do not end the stream keep every channel as it would be alone. -/
theorem pushAll_open {frames : List Bytes} (goOn : ∀ frame ∈ frames, ends geometry frame = false)
    (same : demux.geometry = geometry) (isOpen : demux.isDone = false)
    (alone : ∀ channel, Alone geometry given demux emitted channel) :
    ∃ after packets, demux.pushAll frames = some (after, packets) ∧
      after.geometry = geometry ∧ after.isDone = false ∧
      ∀ channel, Alone geometry (given ++ frames) after (emitted ++ packets) channel := by
  induction frames generalizing demux given emitted with
  | nil =>
    refine ⟨demux, [], rfl, same, isOpen, ?_⟩
    rw [List.append_nil, List.append_nil]
    exact alone
  | cons frame frames ih =>
    obtain ⟨first, others⟩ := List.forall_mem_cons.mp goOn
    obtain ⟨middle, packets, pushed, same', isOpen', alone'⟩ := alone_push same isOpen first alone
    obtain ⟨after, more, ran, sameAfter, isOpenAfter, aloneAfter⟩ := ih others same' isOpen' alone'
    refine ⟨after, packets ++ more, ?_, sameAfter, isOpenAfter, ?_⟩
    · simp only [pushAll, pushed, ran, Option.bind_eq_bind, Option.bind_some, Option.pure_def]
    · rw [List.append_assoc, List.append_assoc] at aloneAfter
      exact aloneAfter

/-- Behind the end, nothing is accepted and nothing changes. -/
theorem push_done (isDone : demux.isDone = true) (frame : Bytes) :
    demux.push frame = some (demux, ⟨false, []⟩) :=
  if_pos isDone

theorem pushAll_done (isDone : demux.isDone = true) (frames : List Bytes) :
    demux.pushAll frames = some (demux, []) := by
  induction frames with
  | nil => rfl
  | cons frame frames ih =>
    simp only [pushAll, push_done isDone, ih, Option.bind_eq_bind, Option.bind_some,
      Option.pure_def, List.append_nil]

/-- The first frame that is short or padding ends the stream and changes nothing else. -/
theorem push_ends (ending : ends demux.geometry frame = true) :
    demux.push frame = some ({ demux with isDone := true }, ⟨false, []⟩) := by
  by_cases isDone : demux.isDone = true
  · have unchanged : { demux with isDone := true } = demux := by
      rw [← isDone]
    rw [push_done isDone, unchanged]
  · exact (if_neg isDone).trans (if_pos ending)

/-- Frames that are taken are one that is taken and then others that are. -/
theorem exists_of_pushAll_cons {after : Demux} {frames : List Bytes}
    (ran : demux.pushAll (frame :: frames) = some (after, emitted)) :
    ∃ middle accepted packets others, demux.push frame = some (middle, ⟨accepted, packets⟩) ∧
      middle.pushAll frames = some (after, others) ∧ packets ++ others = emitted := by
  simp only [pushAll, Option.bind_eq_bind, Option.bind_eq_some_iff] at ran
  obtain ⟨⟨middle, accepted, packets⟩, pushed, ⟨last, others⟩, continued, made⟩ := ran
  obtain ⟨rfl, rfl⟩ := Prod.mk.inj (Option.some.inj made)
  exact ⟨middle, accepted, packets, others, pushed, continued, rfl⟩

theorem pushAll_append {middle after : Demux} {packets others : List FramedPacket}
    {frames later : List Bytes} (first : demux.pushAll frames = some (middle, packets))
    (second : middle.pushAll later = some (after, others)) :
    demux.pushAll (frames ++ later) = some (after, packets ++ others) := by
  induction frames generalizing demux packets with
  | nil =>
    obtain ⟨rfl, rfl⟩ := Prod.mk.inj (Option.some.inj first)
    exact second
  | cons frame frames ih =>
    obtain ⟨next, accepted, completed, more, pushed, ran, rfl⟩ := exists_of_pushAll_cons first
    simp only [List.cons_append, pushAll, pushed, ih ran, Option.bind_eq_bind, Option.bind_some,
      Option.pure_def, List.append_assoc]

/-! ### All channels together -/

/-- The channels, made or not, in ascending order. -/
theorem toList_channels (demux : Demux) :
    demux.channels.toList = (List.range channelCount).map demux.channel? := by
  refine List.ext_getElem ?_ fun index inside inside' => ?_
  · rw [Vector.length_toList, List.length_map, List.length_range]
  · rw [Vector.length_toList] at inside
    rw [List.getElem_map, List.getElem_range, Vector.getElem_toList, channel?,
      Vector.getElem?_eq_getElem inside]
    rfl

/-- The channels that have been made are seen, in ascending order. -/
theorem channelsSeen_eq (numbered : ∀ channel, ∀ reassembler ∈ demux.channel? channel,
    reassembler.channel = channel) :
    demux.channelsSeen = (List.range channelCount).filter (demux.channel? · |>.isSome) := by
  have named : (fun channel => channel.map Reassembler.channel) ∘ demux.channel? =
      Option.guard (demux.channel? · |>.isSome) := by
    funext channel
    rw [Function.comp_apply, Option.guard]
    cases found : demux.channel? channel with
    | none => rfl
    | some reassembler => exact congrArg some (numbered channel reassembler found)
  rw [channelsSeen, toList_channels, List.filterMap_map, named, List.filterMap_eq_filter]

end Demux

/-- The eight counts of a channel. -/
def ReassemblyStats.counts : List (ReassemblyStats → Nat) :=
  [frames, idleFrames, droppedFrames, gaps, framesSkipped, packets, lengthMismatches,
    bytesDiscarded]

theorem ReassemblyStats.count_add {count : ReassemblyStats → Nat} (member : count ∈ counts)
    (first second : ReassemblyStats) : count (first + second) = count first + count second := by
  simp only [counts, List.mem_cons, List.not_mem_nil, or_false] at member
  rcases member with rfl | rfl | rfl | rfl | rfl | rfl | rfl | rfl
  all_goals rfl

theorem ReassemblyStats.count_empty {count : ReassemblyStats → Nat} (member : count ∈ counts) :
    count {} = 0 := by
  simp only [counts, List.mem_cons, List.not_mem_nil, or_false] at member
  rcases member with rfl | rfl | rfl | rfl | rfl | rfl | rfl | rfl
  all_goals rfl

namespace Demux

/-- The sum of a count over channels; those that have not been made count for nothing. -/
def sumOf (count : ReassemblyStats → Nat) : List (Option Reassembler) → Nat
  | [] => 0
  | channel :: channels => (channel.map (count ·.stats)).getD 0 + sumOf count channels

/-- Each count of a demultiplexer is the sum of the counts of its channels. -/
theorem count_stats {count : ReassemblyStats → Nat} (member : count ∈ ReassemblyStats.counts)
    (demux : Demux) :
    count demux.stats = sumOf count ((List.range channelCount).map demux.channel?) := by
  have summed (channels : List (Option Reassembler)) (total : ReassemblyStats) :
      count (channels.foldl (fun total channel =>
          (channel.map fun reassembler => total + reassembler.stats).getD total) total) =
        count total + sumOf count channels := by
    induction channels generalizing total with
    | nil => rfl
    | cons channel channels ih =>
      rw [List.foldl_cons, ih, sumOf, ← Nat.add_assoc]
      cases channel with
      | none => rfl
      | some reassembler =>
        exact congrArg (· + _) (ReassemblyStats.count_add member total reassembler.stats)
  rw [stats, toList_channels, summed, ReassemblyStats.count_empty member, Nat.zero_add]

variable {geometry : FrameGeometry} {given : List Bytes} {demux : Demux}
  {emitted : List FramedPacket} {channel : Nat}

/-- A channel that has been made knows its number. -/
theorem Alone.numbered (alone : Alone geometry given demux emitted channel) :
    ∀ reassembler ∈ demux.channel? channel, reassembler.channel = channel := by
  obtain ⟨reassembler, packets, ran, _, stored⟩ := alone
  rw [stored]
  intro other found
  by_cases none : framesOf channel given = []
  · rw [if_pos none] at found
    contradiction
  · rw [if_neg none] at found
    obtain rfl := Option.some.inj found
    exact (Reassembler.run_same ran).1

/-- A channel has been made when it has been given a frame. -/
theorem Alone.isSome_iff (alone : Alone geometry given demux emitted channel) :
    (demux.channel? channel).isSome ↔ framesOf channel given ≠ [] := by
  obtain ⟨reassembler, packets, _, _, stored⟩ := alone
  rw [stored]
  by_cases none : framesOf channel given = []
  · rw [if_pos none]
    exact ⟨fun some => absurd some Bool.false_ne_true, fun some => absurd none some⟩
  · rw [if_neg none]
    exact ⟨fun _ => none, fun _ => rfl⟩

/-- There are frames of the channels below the bound only. -/
theorem lt_of_framesOf_ne_nil (some : framesOf channel given ≠ []) : channel < channelCount := by
  obtain ⟨frame, member⟩ := List.exists_mem_of_ne_nil _ some
  exact FrameField.channel?_lt (beq_iff_eq.mp (List.mem_filter.mp member).2)

theorem ends_framesBefore {geometry : FrameGeometry} {frames : List Bytes} :
    ∀ frame ∈ framesBefore geometry frames, ends geometry frame = false := by
  intro frame member
  have goesOn := List.all_eq_true.mp List.all_takeWhile frame member
  rw [Bool.not_eq_true'] at goesOn
  exact goesOn

/-- Either no frame ends the stream, or one does behind those before it. -/
theorem framesBefore_cases (geometry : FrameGeometry) (frames : List Bytes) :
    framesBefore geometry frames = frames ∨
      ∃ ending later, framesBefore geometry frames ++ ending :: later = frames ∧
        ends geometry ending = true := by
  have split : framesBefore geometry frames ++
      frames.dropWhile (fun frame => !ends geometry frame) = frames :=
    List.takeWhile_append_dropWhile
  cases rest : frames.dropWhile fun frame => !ends geometry frame with
  | nil =>
    rw [rest, List.append_nil] at split
    exact Or.inl split
  | cons ending later =>
    have stops := List.head?_dropWhile_not (fun frame => !ends geometry frame) frames
    rw [rest] at split stops
    exact Or.inr ⟨ending, later, split, by simpa using stops⟩

theorem pushAll_framesBefore (geometry : FrameGeometry) (frames : List Bytes) :
    ∃ after emitted,
      ({ geometry } : Demux).pushAll (framesBefore geometry frames) = some (after, emitted) ∧
      after.geometry = geometry ∧ after.isDone = false ∧
      ∀ channel, Alone geometry (framesBefore geometry frames) after emitted channel :=
  @pushAll_open geometry [] { geometry } [] _ ends_framesBefore rfl rfl (Alone.fresh geometry)

/-- After any frames, the channels are as they would be alone; a frame that ends the stream, or
comes behind one, changes nothing else. -/
theorem exists_pushAll (geometry : FrameGeometry) (frames : List Bytes) :
    ∃ after emitted, ({ geometry } : Demux).pushAll frames = some (after, emitted) ∧
      (∀ channel, Alone geometry (framesBefore geometry frames) after emitted channel) ∧
      ∀ next, (∃ ending ∈ frames ++ [next], ends geometry ending = true) →
        after.push next = some ({ after with isDone := true }, ⟨false, []⟩) := by
  obtain ⟨middle, emitted, ran, same, _, alone⟩ := pushAll_framesBefore geometry frames
  rcases framesBefore_cases geometry frames with all | ⟨ending, later, split, stops⟩
  · refine ⟨middle, emitted, all ▸ ran, alone, ?_⟩
    rintro next ⟨ending, member, stops⟩
    rcases List.mem_append.mp member with earlier | last
    · rw [← all] at earlier
      exact absurd stops (Bool.eq_false_iff.mp (ends_framesBefore ending earlier))
    · rw [List.mem_singleton.mp last, ← same] at stops
      exact push_ends stops
  · have stopped : middle.push ending = some ({ middle with isDone := true }, ⟨false, []⟩) :=
      push_ends (same ▸ stops)
    have behind : middle.pushAll (ending :: later) = some ({ middle with isDone := true }, []) := by
      have unchanged : { middle with isDone := true }.pushAll later =
        some ({ middle with isDone := true }, []) := pushAll_done rfl later
      simp only [pushAll, stopped, unchanged, Option.bind_eq_bind, Option.bind_some,
        Option.pure_def, List.append_nil]
    have together := pushAll_append ran behind
    rw [split, List.append_nil] at together
    exact ⟨{ middle with isDone := true }, emitted, together, alone, fun next _ =>
      push_done rfl next⟩

/-- **No channel knows of the others.** -/
theorem pushAll_isolated (geometry : FrameGeometry) (frames : List Bytes) :
    ∃ after emitted, ({ geometry } : Demux).pushAll frames = some (after, emitted) ∧
      (∀ channel, Alone geometry (framesBefore geometry frames) after emitted channel) ∧
      after.channelsSeen.Pairwise (· < ·) ∧
      (∀ channel, channel ∈ after.channelsSeen ↔
        framesOf channel (framesBefore geometry frames) ≠ []) ∧
      (∀ count ∈ ReassemblyStats.counts,
        count after.stats = sumOf count ((List.range channelCount).map after.channel?)) ∧
      ∀ next, (∃ ending ∈ frames ++ [next], ends geometry ending = true) →
        after.push next = some ({ after with isDone := true }, ⟨false, []⟩) := by
  obtain ⟨after, emitted, ran, alone, stopped⟩ := exists_pushAll geometry frames
  have seen := channelsSeen_eq fun channel => (alone channel).numbered
  refine ⟨after, emitted, ran, alone, ?_, fun channel => ?_, fun count member =>
    count_stats member after, stopped⟩
  · rw [seen]
    exact List.pairwise_lt_range.filter _
  · rw [seen, List.mem_filter, List.mem_range, (alone channel).isSome_iff]
    exact ⟨And.right, fun some => ⟨lt_of_framesOf_ne_nil some, some⟩⟩

/-- A packet of channel 5 with one of channel 6 between its frames, a frame of zeros, and one more
packet of channel 5. -/
def interleavedFrames : List Bytes :=
  [[64, 5, 0, 0, 0, 0, 0, 0, 8, 1, 192, 0, 0, 1, 17],
    [64, 6, 0, 0, 0, 0, 0, 0, 8, 2, 192, 0, 0, 0, 34],
    [64, 5, 0, 0, 1, 0, 0, 1, 51, 8, 1, 192, 1, 0, 0],
    [0, 0, 0, 0, 0, 0, 0, 0, 0, 0, 0, 0, 0, 0, 0],
    [64, 5, 0, 0, 2, 0, 0, 0, 8, 1, 192, 2, 0, 0, 68]]

/-- The two channels have taken the first three frames, and given out a packet each; nothing more is
taken. -/
theorem pushAll_interleavedFrames :
    (∃ ending ∈ interleavedFrames, ends .sevenByteZones ending = true) ∧
      ∃ after emitted,
        ({ geometry := .sevenByteZones } : Demux).pushAll interleavedFrames =
          some (after, emitted) ∧
        emitted.map (fun packet => (packet.channel, packet.view.bytes)) =
          [(6, [8, 2, 192, 0, 0, 0, 34]), (5, [8, 1, 192, 0, 0, 1, 17, 51])] ∧
        (∀ channel, Alone .sevenByteZones (interleavedFrames.take 3) after emitted channel) ∧
        5 ∈ after.channelsSeen ∧ 6 ∈ after.channelsSeen ∧ 7 ∉ after.channelsSeen ∧
        after.stats.packets = sumOf (·.packets) ((List.range channelCount).map after.channel?) ∧
        ∀ next, after.push next = some ({ after with isDone := true }, ⟨false, []⟩) := by
  have ended : ∃ ending ∈ interleavedFrames, ends .sevenByteZones ending = true := by decide
  have taken : framesBefore .sevenByteZones interleavedFrames = interleavedFrames.take 3 := by
    decide
  have completed : (framedPackets .sevenByteZones interleavedFrames).map
      (·.map fun packet => (packet.channel, packet.view.bytes)) =
        some [(6, [8, 2, 192, 0, 0, 0, 34]), (5, [8, 1, 192, 0, 0, 1, 17, 51])] := by decide +kernel
  have isCount : ReassemblyStats.packets ∈ ReassemblyStats.counts := by
    simp [ReassemblyStats.counts]
  obtain ⟨after, emitted, ran, alone, _, seen, counted, stopped⟩ :=
    pushAll_isolated .sevenByteZones interleavedFrames
  rw [taken] at alone seen
  rw [framedPackets, ran] at completed
  refine ⟨ended, after, emitted, ran, Option.some.inj completed, alone, (seen 5).mpr (by decide),
    (seen 6).mpr (by decide), fun member => (seen 7).mp member (by decide), counted _ isCount,
    fun next => ?_⟩
  obtain ⟨ending, member, stops⟩ := ended
  exact stopped next ⟨ending, List.mem_append_left _ member, stops⟩

end Demux

end Downlink
