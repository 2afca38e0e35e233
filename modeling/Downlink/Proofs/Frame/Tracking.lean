/-
**A channel in step with a packet stream.**

A channel is in step with a stream (`Tracks`) when it is running, expects the frame that comes next,
and holds exactly what has come of the packet under way. It stays in step through every frame that
goes on with the stream, and gives out each packet when it ends:

* `Tracks.accept_inside`: a zone in which nothing starts continues the pending packet;
* `Tracks.accept_start`: where something starts, the pending packet ends and the packets after it
  come out;
* `Tracks.of_sync`: a waiting channel falls into step at the first start;
* `pushAll_tracks`: a channel in step delivers what the frames complete, and loses nothing.
-/

import Downlink.Proofs.Frame.Feeds
import Downlink.Proofs.Frame.Run

namespace Downlink

/-- Packets that were given out are these, in this order, and all valid. -/
structure Delivers (emitted : List FramedPacket) (packets : List Bytes) : Prop where
  bytes : emitted.map (·.view.bytes) = packets
  valid : ∀ packet ∈ emitted, packet.valid = true

namespace Delivers

theorem nil : Delivers [] [] :=
  ⟨rfl, List.forall_mem_nil _⟩

theorem append {emitted others : List FramedPacket} {packets later : List Bytes}
    (first : Delivers emitted packets) (second : Delivers others later) :
    Delivers (emitted ++ others) (packets ++ later) where
  bytes := by rw [List.map_append, first.bytes, second.bytes]
  valid := List.forall_mem_append.mpr ⟨first.valid, second.valid⟩

theorem of_marked {emitted : List FramedPacket} {packets : List Bytes} {spacecraft channel : Nat}
    (collected : emitted.map (·.view.bytes) = packets)
    (marked : ∀ packet ∈ emitted, packet.Marked spacecraft channel)
    (whole : ∀ packet ∈ packets, IsPacket packet) : Delivers emitted packets where
  bytes := collected
  valid packet member := by
    rw [(marked packet member).valid, decide_eq_true_iff]
    refine whole _ ?_
    rw [← collected]
    exact List.mem_map_of_mem member

/-- What was given out first delivers the first packets. -/
theorem split {emitted : List FramedPacket} {packets later : List Bytes}
    (delivers : Delivers emitted (packets ++ later)) :
    ∃ first others, emitted = first ++ others ∧ Delivers first packets ∧ Delivers others later := by
  obtain ⟨first, others, rfl, collected, collectedLater⟩ := List.map_eq_append_iff.mp delivers.bytes
  obtain ⟨valid, validLater⟩ := List.forall_mem_append.mp delivers.valid
  exact ⟨first, others, rfl, ⟨collected, valid⟩, ⟨collectedLater, validLater⟩⟩

theorem length_eq {emitted : List FramedPacket} {packets : List Bytes}
    (delivers : Delivers emitted packets) : packets.length = emitted.length := by
  rw [← delivers.bytes, List.length_map]

end Delivers

/-- Every place in the zone has a pointer of its own, which does not say "none" or "idle". -/
structure FrameGeometry.Pointable (geometry : FrameGeometry) : Prop where
  narrow : geometry.zoneLength ≤ noHeaderPointer
  notIdle : geometry.zoneLength ≤ geometry.idlePointer

/-- Where the first start lies in the zone, the pointer does not say "none". -/
theorem FrameGeometry.Pointable.pointer_ne {geometry : FrameGeometry}
    (pointable : geometry.Pointable) {frame : Bytes} {offset : Nat}
    (within : offset < geometry.zoneLength)
    (pointer : geometry.firstHeaderPointer? frame = some offset) :
    geometry.firstHeaderPointer? frame ≠ some noHeaderPointer := by
  have narrow := pointable.narrow
  rw [pointer, Ne, Option.some.injEq]
  omega

/-- The counts after so many frames that completed so many packets and lost nothing. -/
def ReassemblyStats.gained (stats : ReassemblyStats) (frames packets : Nat) : ReassemblyStats :=
  { stats with
    frames := stats.frames + frames
    packets := stats.packets + packets }

theorem ReassemblyStats.gained_gained (stats : ReassemblyStats)
    (frames packets moreFrames morePackets : Nat) :
    (stats.gained frames packets).gained moreFrames morePackets =
      stats.gained (frames + moreFrames) (packets + morePackets) := by
  simp only [gained, Nat.add_assoc]

theorem getLast?_cons_or {frame : Bytes} (frames : List Bytes) (last : Option Bytes) :
    (frame :: frames).getLast?.or last = frames.getLast?.or (some frame) := by
  rw [List.getLast?_cons, Option.some_or]
  cases frames.getLast? with
  | none => rfl
  | some last => rfl

theorem add_length_cons (counter : Nat) (frame : Bytes) (frames : List Bytes) :
    counter + (frame :: frames).length = counter + 1 + frames.length := by
  rw [List.length_cons, Nat.add_assoc, Nat.add_comm 1]

/-- What comes first, and what comes of the rest. -/
theorem append_of_split {whole front later delivered ends rest pieces : List Bytes}
    (first : whole ++ front ++ later = pieces)
    (split : delivered ++ ends ++ rest = front ++ later) :
    whole ++ delivered ++ ends ++ rest = pieces := by
  rw [← first, List.append_assoc whole front, ← split]
  simp only [List.append_assoc]

theorem getLast?_cons_eq (frame : Bytes) (frames : List Bytes) :
    (frame :: frames).getLast? = frames.getLast?.or (some frame) := by
  rw [← getLast?_cons_or frames none, Option.or_none]

theorem IsFrame.read {geometry : FrameGeometry} {counter pointer : Nat} {zone frame : Bytes}
    (read : IsFrame geometry counter pointer zone frame) :
    ∃ spacecraft, geometry.contents? frame = some ⟨pointer, counter, spacecraft, zone⟩ := by
  obtain ⟨contents, found⟩ := FrameGeometry.exists_contents read.complete
  obtain ⟨_, _, spacecraft, _⟩ := FrameGeometry.contents?_eq_some_iff.mp found
  exact ⟨contents.spacecraft, FrameGeometry.contents?_eq_some_iff.mpr
    ⟨read.pointer, read.counter, spacecraft, read.zone⟩⟩

namespace Reassembler

variable {reassembler : Reassembler} {geometry : FrameGeometry} {counter : Nat}

/-! ### What a frame of the stream means -/

/-- After a frame the one with the next counter is expected. -/
theorem expected_of_lastCounter (noted : reassembler.lastCounter = counter % counterModulus) :
    (counter + 1) % counterModulus = reassembler.expected := by
  rw [expected, noted, Nat.mod_add_mod]

/-- A running channel looks at the pointer of the frame that it expects. -/
theorem reception_next (running : reassembler.state = .running)
    (next : counter = reassembler.expected) (pointer : Nat) :
    reassembler.reception counter pointer =
      if pointer = 0 then .boundary 0
      else if pointer = noHeaderPointer then .continuation
      else if pointer = reassembler.geometry.idlePointer then .idle
      else if pointer < reassembler.geometry.zoneLength then .boundary pointer
      else .outside := by
  unfold reception
  rw [running]
  exact if_neg (not_not_intro next)

theorem reception_inside (running : reassembler.state = .running)
    (next : counter = reassembler.expected) :
    reassembler.reception counter noHeaderPointer = .continuation := by
  rw [reception_next running next, if_neg (by decide), if_pos rfl]

theorem reception_boundary (running : reassembler.state = .running)
    (next : counter = reassembler.expected) (pointable : reassembler.geometry.Pointable)
    {offset : Nat} (within : offset < reassembler.geometry.zoneLength) :
    reassembler.reception counter offset = .boundary offset := by
  have narrow := pointable.narrow
  have notIdle := pointable.notIdle
  rw [reception_next running next]
  by_cases zero : offset = 0
  · rw [if_pos zero, zero]
  · rw [if_neg zero, if_neg (by omega), if_neg (by omega), if_pos within]

theorem reception_sync (counter : Nat) (idle : reassembler.state = .idle)
    (pointable : reassembler.geometry.Pointable) {offset : Nat}
    (within : offset < reassembler.geometry.zoneLength) :
    reassembler.reception counter offset = .sync offset := by
  have narrow := pointable.narrow
  have notIdle := pointable.notIdle
  unfold reception
  rw [idle]
  dsimp only
  rw [if_neg (by omega), if_neg (by omega), if_neg (by omega)]

/-- A running channel finds a gap before a frame that it does not expect. -/
theorem reception_gap (running : reassembler.state = .running)
    (missed : counter ≠ reassembler.expected) (pointer : Nat) :
    reassembler.reception counter pointer =
      .gap (skippedFrames reassembler.expected counter) := by
  unfold reception
  rw [running]
  exact if_pos missed

theorem reception_unsynced (idle : reassembler.state = .idle) :
    reassembler.reception counter noHeaderPointer = .unsynced := by
  unfold reception
  rw [idle]
  exact if_pos rfl

/-! ### Frames in which something starts -/

variable {left zone rest : Bytes} {packets : List Bytes}

/-- A running channel ends the pending packet at the first start, and takes the packets after it. -/
theorem accept_start (running : reassembler.state = .running)
    (next : counter = reassembler.expected) (pointable : reassembler.geometry.Pointable)
    (within : left.length < reassembler.geometry.zoneLength) (splits : Splits zone packets rest)
    (spacecraft : Nat) :
    ∃ emitted, Delivers emitted packets ∧
      reassembler.accept ⟨left.length, counter, spacecraft, left ++ zone⟩ =
        let finished := (reassembler.noted counter).finish spacecraft left
        ({ finished.1 with
          pending := rest
          stats.packets := finished.1.stats.packets + packets.length }, finished.2 ++ emitted) := by
  have boundary := reception_boundary running next pointable within
  obtain ⟨emitted, extracted, collected, marked⟩ :=
    ((reassembler.noted counter).finish spacecraft left).1.extract_eq spacecraft splits
  refine ⟨emitted, .of_marked collected marked splits.whole, ?_⟩
  rw [accept_boundary boundary]
  dsimp only
  rw [List.take_left, List.drop_left, extracted]

/-- A waiting channel takes the packets from the first start on. -/
theorem accept_first (counter : Nat) (idle : reassembler.state = .idle)
    (pointable : reassembler.geometry.Pointable)
    (within : left.length < reassembler.geometry.zoneLength) (splits : Splits zone packets rest)
    (spacecraft : Nat) :
    ∃ emitted, Delivers emitted packets ∧
      reassembler.accept ⟨left.length, counter, spacecraft, left ++ zone⟩ =
        ({ reassembler with
          state := .running
          lastCounter := counter
          pending := rest
          stats := reassembler.stats.gained 1 packets.length }, emitted) := by
  have sync := reception_sync counter idle pointable within
  obtain ⟨emitted, extracted, collected, marked⟩ := { reassembler.noted counter with
    state := .running
    pending := [] }.extract_eq spacecraft splits
  refine ⟨emitted, .of_marked collected marked splits.whole, ?_⟩
  rw [accept_sync sync, List.drop_left, extracted]
  rfl

end Reassembler

/-! ### In step -/

/-- A channel is in step with a stream, of which the frame with this counter comes next and brings
what is left of the packet under way. `last` is the frame that the channel took last. -/
structure Tracks (reassembler : Reassembler) (counter : Nat) (left : Bytes) (last : Option Bytes) :
    Prop where
  running : reassembler.state = .running
  next : counter % counterModulus = reassembler.expected
  packet : reassembler.pending = [] ∧ left = [] ∨
    reassembler.pending ≠ [] ∧ IsPacket (reassembler.pending ++ left)
  /-- A frame in which nothing starts leaves something pending. -/
  inside : ∀ frame ∈ last, reassembler.geometry.firstHeaderPointer? frame = some noHeaderPointer →
    reassembler.pending ≠ []
  /-- A frame in which something starts leaves nothing pending when nothing is left of it. -/
  start : ∀ frame ∈ last, reassembler.geometry.firstHeaderPointer? frame ≠ some noHeaderPointer →
    left = [] → reassembler.pending = []

namespace Tracks

variable {reassembler : Reassembler} {counter : Nat} {left : Bytes} {last : Option Bytes}

/-- After a frame in which something started, a channel holds what has started. -/
theorem of_cut {pieces whole later : List Bytes} {started remains frame : Bytes} {room : Nat}
    (running : reassembler.state = .running)
    (noted : reassembler.lastCounter = counter % counterModulus)
    (pending : reassembler.pending = started)
    (cut : Cut pieces room whole started remains later)
    (packets : ∀ piece ∈ pieces, IsPacket piece)
    (pointer : reassembler.geometry.firstHeaderPointer? frame ≠ some noHeaderPointer) :
    Tracks reassembler (counter + 1) remains (some frame) where
  running := running
  next := Reassembler.expected_of_lastCounter noted
  packet := pending ▸ cut.packet packets
  inside frame' same none := by
    obtain rfl := Option.some.inj same
    exact absurd none pointer
  start _ _ _ none := by rw [pending, cut.inside.mpr none]

/-- A channel in step ends the packet under way, if there is one, as a valid one. -/
theorem finish (tracks : Tracks reassembler counter left last) (spacecraft : Nat) :
    ∃ completed, Delivers completed (underWay reassembler.pending left) ∧
      (reassembler.noted counter).finish spacecraft left =
        ({ reassembler.noted counter with
          pending := []
          stats := reassembler.stats.gained 1 completed.length }, completed) := by
  rcases tracks.packet with ⟨nothing, none⟩ | ⟨something, whole⟩
  · refine ⟨[], ?_, ?_⟩
    · rw [nothing, underWay_nil]
      exact .nil
    · rw [(reassembler.noted counter).finish_nothing spacecraft left nothing, none]
      simp only [Reassembler.noted, nothing, ReassemblyStats.gained, List.length_nil, Nat.add_zero]
  · have fits := whole.length_le
    rw [List.length_append] at fits
    obtain ⟨packet, emitted, bytes, marked⟩ := { reassembler.noted counter with
      pending := reassembler.pending ++ left }.emit_whole spacecraft whole
    have collected : [packet].map (·.view.bytes) = [reassembler.pending ++ left] :=
      congrArg ([·]) bytes
    refine ⟨[packet], ?_, ?_⟩
    · rw [underWay_of_ne_nil something]
      exact .of_marked collected (List.forall_mem_singleton.mpr marked)
        (List.forall_mem_singleton.mpr whole)
    · rw [(reassembler.noted counter).finish_fits spacecraft tracks.running something fits]
      exact emitted

/-- **A zone in which nothing starts** keeps a channel in step. -/
theorem accept_inside (tracks : Tracks reassembler counter left last)
    (long : reassembler.geometry.zoneLength ≤ left.length) {frame : Bytes}
    (pointer : reassembler.geometry.firstHeaderPointer? frame = some noHeaderPointer)
    (spacecraft : Nat) :
    ∃ after, reassembler.accept ⟨noHeaderPointer, counter % counterModulus, spacecraft,
        left.take reassembler.geometry.zoneLength⟩ = (after, []) ∧
      Tracks after (counter + 1) (left.drop reassembler.geometry.zoneLength) (some frame) ∧
      underWay after.pending (left.drop reassembler.geometry.zoneLength) =
        underWay reassembler.pending left ∧
      after.stats = reassembler.stats.gained 1 0 := by
  have positive := reassembler.geometry.zone_pos
  obtain ⟨something, whole⟩ :
      reassembler.pending ≠ [] ∧ IsPacket (reassembler.pending ++ left) := by
    refine tracks.packet.resolve_left fun nothing => ?_
    rw [nothing.2, List.length_nil] at long
    omega
  have joined : reassembler.pending ++ left.take reassembler.geometry.zoneLength ++
      left.drop reassembler.geometry.zoneLength = reassembler.pending ++ left := by
    rw [List.append_assoc, List.take_append_drop]
  have fits := whole.length_le
  rw [List.length_append] at fits
  have more : reassembler.pending ++ left.take reassembler.geometry.zoneLength ≠ [] :=
    List.append_ne_nil_of_left_ne_nil something _
  refine ⟨{ reassembler.noted (counter % counterModulus) with
    pending := reassembler.pending ++ left.take reassembler.geometry.zoneLength }, ?_, ?_, ?_, rfl⟩
  · rw [Reassembler.accept_continuation (Reassembler.reception_inside tracks.running tracks.next),
      Reassembler.append_fits]
    · rfl
    · rw [List.length_take]
      show reassembler.pending.length + _ ≤ _
      omega
  · refine ⟨tracks.running, Reassembler.expected_of_lastCounter rfl,
      Or.inr ⟨more, by rw [joined]; exact whole⟩, fun _ _ _ => more, ?_⟩
    intro frame' same some
    obtain rfl := Option.some.inj same
    exact absurd pointer some
  · rw [underWay_of_ne_nil something]
    exact (underWay_of_ne_nil more _).trans (congrArg ([·]) joined)

/-- **A zone in which something starts** ends the packet under way and keeps a channel in step. -/
theorem accept_start (tracks : Tracks reassembler counter left last)
    (pointable : reassembler.geometry.Pointable)
    (short : left.length < reassembler.geometry.zoneLength)
    {pieces whole later : List Bytes} {started remains frame : Bytes} {room : Nat}
    (cut : Cut pieces room whole started remains later)
    (packets : ∀ piece ∈ pieces, IsPacket piece)
    (pointer : reassembler.geometry.firstHeaderPointer? frame = some left.length)
    (spacecraft : Nat) :
    ∃ after emitted delivered, reassembler.accept ⟨left.length, counter % counterModulus,
        spacecraft, left ++ (whole.flatten ++ started)⟩ = (after, emitted) ∧
      Delivers emitted delivered ∧
      Tracks after (counter + 1) remains (some frame) ∧
      delivered ++ underWay after.pending remains ++ later =
        underWay reassembler.pending left ++ pieces ∧
      after.stats = reassembler.stats.gained 1 emitted.length := by
  have next := tracks.next
  have stepped : Tracks reassembler (counter % counterModulus) left last :=
    { tracks with next := by rw [Nat.mod_mod]; exact next }
  obtain ⟨completed, first, finished⟩ := stepped.finish spacecraft
  obtain ⟨emitted, second, accepted⟩ := Reassembler.accept_start tracks.running next pointable
    short (cut.splits packets) spacecraft
  rw [finished] at accepted
  refine ⟨_, completed ++ emitted, underWay reassembler.pending left ++ whole, accepted,
    first.append second, ?_, ?_, ?_⟩
  · exact of_cut tracks.running rfl rfl cut packets (pointable.pointer_ne short pointer)
  · rw [List.append_assoc, List.append_assoc, ← cut.pieces, List.append_assoc]
  · rw [List.length_append, ← second.length_eq]
    simp only [ReassemblyStats.gained, Nat.add_assoc]

/-- **A waiting channel falls into step** at the first start. -/
theorem of_sync (idle : reassembler.state = .idle) (pointable : reassembler.geometry.Pointable)
    (short : left.length < reassembler.geometry.zoneLength)
    {pieces whole later : List Bytes} {started remains frame : Bytes} {room : Nat}
    (cut : Cut pieces room whole started remains later)
    (packets : ∀ piece ∈ pieces, IsPacket piece)
    (pointer : reassembler.geometry.firstHeaderPointer? frame = some left.length)
    (spacecraft : Nat) :
    ∃ after emitted, reassembler.accept ⟨left.length, counter % counterModulus,
        spacecraft, left ++ (whole.flatten ++ started)⟩ = (after, emitted) ∧
      Delivers emitted whole ∧
      Tracks after (counter + 1) remains (some frame) ∧
      whole ++ underWay after.pending remains ++ later = pieces ∧
      after.stats = reassembler.stats.gained 1 emitted.length := by
  obtain ⟨emitted, delivers, accepted⟩ := Reassembler.accept_first (counter % counterModulus) idle
    pointable short (cut.splits packets) spacecraft
  refine ⟨_, emitted, accepted, delivers,
    of_cut rfl rfl rfl cut packets (pointable.pointer_ne short pointer), cut.pieces, ?_⟩
  rw [delivers.length_eq]

end Tracks

/-- **A channel in step delivers what the frames complete, stays in step, and loses nothing.** -/
theorem Reassembler.pushAll_tracks {geometry : FrameGeometry} (pointable : geometry.Pointable)
    {counter : Nat} {left left' : Bytes} {pieces frames rest : List Bytes}
    (feeds : Feeds geometry counter left pieces frames left' rest)
    (packets : ∀ piece ∈ pieces, IsPacket piece) {reassembler : Reassembler}
    (same : reassembler.geometry = geometry) {last : Option Bytes}
    (tracks : Tracks reassembler counter left last) :
    ∃ after emitted delivered, reassembler.pushAll frames = some (after, emitted) ∧
      Delivers emitted delivered ∧
      Tracks after (counter + frames.length) left' (frames.getLast?.or last) ∧
      delivered ++ underWay after.pending left' ++ rest =
        underWay reassembler.pending left ++ pieces ∧
      after.stats = reassembler.stats.gained frames.length emitted.length := by
  induction feeds generalizing reassembler last with
  | done counter left pieces =>
    exact ⟨reassembler, [], [], rfl, .nil, tracks, rfl, rfl⟩
  | @inside counter left frame left' pieces frames rest long read _ ih =>
    obtain ⟨spacecraft, contents⟩ := read.read
    subst same
    obtain ⟨middle, accepted, inStep, kept, counted⟩ :=
      tracks.accept_inside long read.pointer spacecraft
    obtain ⟨after, emitted, delivered, ran, delivers, ends, split, stats⟩ :=
      ih packets (geometry_of_accept accepted) inStep
    refine ⟨after, emitted, delivered, pushAll_cons_silent contents accepted ran, delivers, ?_, ?_,
      ?_⟩
    · rw [getLast?_cons_or, add_length_cons]
      exact ends
    · rw [split, kept]
    · rw [stats, counted, ReassemblyStats.gained_gained, List.length_cons, Nat.zero_add,
        Nat.add_comm 1]
  | @start counter left frame started remains left' pieces whole later frames rest short cut read
      _ ih =>
    obtain ⟨spacecraft, contents⟩ := read.read
    subst same
    obtain ⟨middle, first, completed, accepted, firstDelivers, inStep, firstSplit, counted⟩ :=
      tracks.accept_start pointable short cut packets read.pointer spacecraft
    obtain ⟨after, emitted, delivered, ran, delivers, ends, split, stats⟩ :=
      ih (cut.forall_rest packets) (geometry_of_accept accepted) inStep
    refine ⟨after, first ++ emitted, completed ++ delivered, pushAll_cons contents accepted ran,
      firstDelivers.append delivers, ?_, ?_, ?_⟩
    · rw [getLast?_cons_or, add_length_cons]
      exact ends
    · exact append_of_split firstSplit split
    · rw [stats, counted, ReassemblyStats.gained_gained, List.length_cons, List.length_append,
        Nat.add_comm 1]

/-- **A waiting channel delivers everything from the first start on**, when that is in the first
frame. -/
theorem Reassembler.pushAll_first {geometry : FrameGeometry} (pointable : geometry.Pointable)
    {counter : Nat} {left frame left' : Bytes} {pieces frames rest : List Bytes}
    (feeds : Feeds geometry counter left pieces (frame :: frames) left' rest)
    (short : left.length < geometry.zoneLength) (packets : ∀ piece ∈ pieces, IsPacket piece)
    (reassembler : Reassembler) (same : reassembler.geometry = geometry)
    (idle : reassembler.state = .idle) :
    ∃ after emitted delivered, reassembler.pushAll (frame :: frames) = some (after, emitted) ∧
      Delivers emitted delivered ∧
      Tracks after (counter + 1 + frames.length) left' (frames.getLast?.or (some frame)) ∧
      delivered ++ underWay after.pending left' ++ rest = pieces ∧
      after.stats = reassembler.stats.gained (frames.length + 1) emitted.length := by
  subst same
  cases feeds with
  | inside long _ _ => omega
  | start _ cut read others =>
    obtain ⟨spacecraft, contents⟩ := read.read
    obtain ⟨middle, first, accepted, firstDelivers, inStep, firstSplit, counted⟩ :=
      Tracks.of_sync idle pointable short cut packets read.pointer spacecraft
    obtain ⟨after, emitted, delivered, ran, delivers, ends, split, stats⟩ :=
      pushAll_tracks pointable others (cut.forall_rest packets) (geometry_of_accept accepted) inStep
    refine ⟨after, first ++ emitted, _, pushAll_cons contents accepted ran,
      firstDelivers.append delivers, ends, append_of_split firstSplit split, ?_⟩
    · rw [stats, counted, ReassemblyStats.gained_gained, List.length_append, Nat.add_comm 1]

/-- **What a channel in step has delivered when the frames of a stretch end.** `packets` are those
that have started since it fell into step. -/
theorem Tracks.delivered_eq {geometry : FrameGeometry} {reassembler : Reassembler}
    {counter first : Nat} {stretch : Stretch} {tail packets delivered rest frames : List Bytes}
    {left missing : Bytes} (tracks : Tracks reassembler counter left frames.getLast?)
    (some : frames ≠ []) (same : reassembler.geometry = geometry) (pointable : geometry.Pointable)
    (carried : stretch.CarriedBy geometry first frames)
    (completion : stretch.Completion tail missing)
    (whole : ∀ packet ∈ packets ++ tail, IsPacket packet)
    (split : delivered ++ underWay reassembler.pending left ++ rest = packets ++ tail)
    (length : left.length + rest.flatten.length = missing.length) :
    delivered = (if stretch.EndsOpen geometry.zoneLength frames.length
        then packets.dropLast else packets) ∧
      reassembler.pending = if stretch.EndsOpen geometry.zoneLength frames.length
        then packets.getLast?.getD [] else stretch.trailing := by
  subst same
  obtain ⟨last, ends⟩ := Option.ne_none_iff_exists'.mp (mt List.getLast?_eq_none_iff.mp some)
  have pointer := carried.last_pointer pointable.narrow ends
  refine Downlink.delivered_eq (fun packet member => (whole packet member).ne_nil) completion.shape
    split length ?_ ?_ ?_
  · intro nothing
    exact (tracks.packet.resolve_right fun something => something.1 nothing).2
  · intro opens
    exact ⟨opens.1, tracks.inside last ends (pointer.mpr opens.2)⟩
  · intro none closed empty
    exact tracks.start last ends (fun none' => closed ⟨none, pointer.mp none'⟩) empty

end Downlink
