/-
**Two channels side by side.**

What a channel does with a frame depends on its state, on the packet that is pending, and on whether
the frame is the expected one. It does not depend on what has been counted so far, nor on the
numbers that the counters happen to have. So a channel that is given frames with raised counters
runs side by side with one that is given the frames as they are (`Reassembler.Parallel`), and all
that is seen of it is the same, but for what it had counted before (`Sighting.behind`).

* `Reassembler.receive_displaced`: a frame does the same to a channel with other counts;
* `Reassembler.Parallel.push`: one frame keeps two channels side by side;
* `Reassembler.Parallel.sightings_eq`: what is seen of them, frame after frame.
-/

import Downlink.Proofs.Frame.Run

namespace Downlink

namespace ReassemblyStats

variable (first second third : ReassemblyStats)

theorem empty_add : {} + first = first := by
  show add {} first = first
  simp [add]

theorem add_empty : first + {} = first := rfl

theorem add_assoc : first + second + third = first + (second + third) := by
  show add (add first second) third = add first (add second third)
  simp [add, Nat.add_assoc]

end ReassemblyStats

/-! ### Raised counters -/

/-- Counters that are raised by the same number are as far apart as before. -/
theorem skippedFrames_raised (expected actual shift : Nat) :
    skippedFrames ((expected + shift) % counterModulus) ((actual + shift) % counterModulus) =
      skippedFrames expected actual := by
  simp only [skippedFrames, counterModulus]
  omega

/-- Raising keeps counters apart. -/
theorem raised_eq_iff {first second : Nat} (shift : Nat) (firstFits : first < counterModulus)
    (secondFits : second < counterModulus) :
    (first + shift) % counterModulus = (second + shift) % counterModulus ↔ first = second := by
  simp only [counterModulus] at *
  omega

/-- The contents with the counter raised. -/
def FrameContents.raised (contents : FrameContents) (shift : Nat) : FrameContents :=
  { contents with counter := (contents.counter + shift) % counterModulus }

/-- The second frame is the first one with its counter raised, as far as a channel looks at it. -/
structure FrameGeometry.Raised (geometry : FrameGeometry) (shift : Nat) (frame raised : Bytes) :
    Prop where
  pointer : geometry.firstHeaderPointer? raised = geometry.firstHeaderPointer? frame
  counter : FrameField.counter? raised =
    (FrameField.counter? frame).map fun counter => (counter + shift) % counterModulus
  spacecraft : FrameField.spacecraft? raised = FrameField.spacecraft? frame
  zone : geometry.zone? raised = geometry.zone? frame

/-- A frame as it is has its counter raised by nothing. -/
theorem FrameGeometry.Raised.refl (geometry : FrameGeometry) (frame : Bytes) :
    geometry.Raised 0 frame frame := by
  refine ⟨rfl, ?_, rfl, rfl⟩
  cases read : FrameField.counter? frame with
  | none => rfl
  | some counter => exact congrArg some (Nat.mod_eq_of_lt (Word.read?_lt read)).symm

namespace Reassembler

/-! ### Other counts and another last counter -/

/-- The channel with more on its counts. -/
def counting (reassembler : Reassembler) (more : ReassemblyStats) : Reassembler :=
  { reassembler with stats := reassembler.stats + more }

/-- The same channel with counts of an earlier time before its own, and another last counter. -/
def displaced (reassembler : Reassembler) (earlier : ReassemblyStats) (lastCounter : Nat) :
    Reassembler :=
  { reassembler with lastCounter, stats := earlier + reassembler.stats }

section Displaced

variable (reassembler : Reassembler) (earlier : ReassemblyStats) (counter spacecraft : Nat)

@[simp] theorem displaced_geometry :
    (reassembler.displaced earlier counter).geometry = reassembler.geometry := rfl

@[simp] theorem displaced_state :
    (reassembler.displaced earlier counter).state = reassembler.state := rfl

@[simp] theorem displaced_lastCounter :
    (reassembler.displaced earlier counter).lastCounter = counter := rfl

@[simp] theorem displaced_pending :
    (reassembler.displaced earlier counter).pending = reassembler.pending := rfl

theorem displaced_self : reassembler.displaced {} reassembler.lastCounter = reassembler := by
  unfold displaced
  rw [ReassemblyStats.empty_add]

theorem counting_displaced (more : ReassemblyStats) :
    (reassembler.displaced earlier counter).counting more =
      (reassembler.counting more).displaced earlier counter := by
  simp only [counting, displaced, ReassemblyStats.add_assoc]

theorem reset_displaced :
    (reassembler.displaced earlier counter).reset =
      reassembler.reset.displaced earlier counter :=
  counting_displaced { reassembler with state := .idle, pending := [] } earlier counter
    { bytesDiscarded := reassembler.pending.length }

theorem append_displaced (bytes : Bytes) :
    (reassembler.displaced earlier counter).append bytes =
      (reassembler.append bytes).displaced earlier counter := by
  by_cases fits : reassembler.pending.length + bytes.length ≤ PacketField.longestPacket
  · rw [append_fits reassembler fits, append_fits (reassembler.displaced earlier counter) fits]
    rfl
  · have long := Nat.not_le.mp fits
    rw [append_overflow reassembler long,
      append_overflow (reassembler.displaced earlier counter) long]
    exact reset_displaced reassembler earlier counter

theorem emit_displaced :
    (reassembler.displaced earlier counter).emit spacecraft =
      ((reassembler.emit spacecraft).1.displaced earlier counter,
        (reassembler.emit spacecraft).2) := by
  unfold emit
  rw [displaced_pending]
  cases PacketView.of? reassembler.pending with
  | none =>
    exact congrArg (·, []) (counting_displaced { reassembler with pending := [] } earlier counter
      { lengthMismatches := 1, bytesDiscarded := reassembler.pending.length })
  | some view =>
    exact congrArg (·, _) (counting_displaced { reassembler with pending := [] } earlier counter
      { packets := 1
        lengthMismatches := if view.totalLength == reassembler.pending.length then 0 else 1 })

theorem finish_displaced (bytes : Bytes) :
    (reassembler.displaced earlier counter).finish spacecraft bytes =
      ((reassembler.finish spacecraft bytes).1.displaced earlier counter,
        (reassembler.finish spacecraft bytes).2) := by
  unfold finish
  rw [append_displaced, displaced_pending]
  by_cases nothing : reassembler.pending.isEmpty = true
  · rw [if_pos nothing, if_pos nothing]
    exact congrArg (·, [])
      (counting_displaced reassembler earlier counter { bytesDiscarded := bytes.length })
  · rw [if_neg nothing, if_neg nothing]
    by_cases running : (reassembler.append bytes).state = .running
    · simp only [displaced_state, running, if_true]
      exact emit_displaced (reassembler.append bytes) earlier counter spacecraft
    · simp only [displaced_state, running, if_false]
      rfl

theorem extract_displaced (zone : Bytes) :
    (reassembler.displaced earlier counter).extract spacecraft zone =
      ((reassembler.extract spacecraft zone).1.displaced earlier counter,
        (reassembler.extract spacecraft zone).2) := by
  obtain ⟨packets, rest, splits⟩ := Splits.exists_splits zone
  induction packets generalizing reassembler zone with
  | nil =>
    obtain rfl : rest = zone := splits.joined
    rw [extract_rest _ _ splits.short, extract_rest _ _ splits.short]
    rfl
  | cons packet packets ih =>
    obtain ⟨whole, joined, tail⟩ := splits.of_cons
    rw [← joined, extract_packet _ _ _ whole, extract_packet _ _ _ whole]
    have emitted := emit_displaced { reassembler with pending := packet } earlier counter spacecraft
    have others := ih ({ reassembler with pending := packet }.emit spacecraft).1 _ tail
    have same : { reassembler.displaced earlier counter with pending := packet } =
        { reassembler with pending := packet }.displaced earlier counter := rfl
    simp only [same, emitted, others]

end Displaced

end Reassembler

/-! ### A frame -/

/-- Whether a channel in this state keeps the counter of the frame. -/
def Reception.accepts (state : ChannelState) : Reception → Bool
  | .unsynced | .gap _ => false
  | .idle => state = .running
  | .sync _ | .outside | .continuation | .boundary _ => true

namespace Reassembler

section Receive

variable (reassembler : Reassembler) (spacecraft counter : Nat) (zone : Bytes)
  (reception : Reception)

/-- **A frame does the same to a channel with other counts and another last counter.** -/
theorem receive_displaced (earlier : ReassemblyStats) (lastCounter raised : Nat) :
    (reassembler.displaced earlier lastCounter).receive spacecraft raised zone reception =
      ((reassembler.receive spacecraft counter zone reception).1.displaced earlier
        (if reception.accepts reassembler.state then raised else lastCounter),
        (reassembler.receive spacecraft counter zone reception).2) := by
  let accepted := { reassembler with lastCounter := counter }
  cases reception with
  | unsynced => rfl
  | idle =>
    simp only [receive, Reception.accepts, displaced_state, decide_eq_true_eq]
    rfl
  | sync offset =>
    exact extract_displaced { accepted with state := .running, pending := [] } earlier raised
      spacecraft (zone.drop offset)
  | gap skipped =>
    have counted := reset_displaced
      (reassembler.counting { gaps := 1, framesSkipped := skipped }) earlier lastCounter
    rw [← counting_displaced] at counted
    exact congrArg (·, []) counted
  | outside => exact congrArg (·, []) (reset_displaced accepted earlier raised)
  | continuation => exact congrArg (·, []) (append_displaced accepted earlier raised zone)
  | boundary offset =>
    have finished := finish_displaced accepted earlier raised spacecraft (zone.take offset)
    have extracted := extract_displaced (accepted.finish spacecraft (zone.take offset)).1 earlier
      raised spacecraft (zone.drop offset)
    have same : { reassembler.displaced earlier lastCounter with lastCounter := raised } =
        accepted.displaced earlier raised := rfl
    simp only [receive, same, finished, extracted]
    rfl

/-- A channel keeps the counters of the frames that it accepts: it is the same channel displaced to
its own last counter. -/
theorem receive_lastCounter :
    (reassembler.receive spacecraft counter zone reception).1.lastCounter =
      if reception.accepts reassembler.state then counter else reassembler.lastCounter := by
  have same := receive_displaced reassembler spacecraft counter zone reception {}
    reassembler.lastCounter counter
  rw [displaced_self] at same
  exact congrArg (·.1.lastCounter) same

end Receive

section Accept

variable (reassembler : Reassembler) (contents : FrameContents)

theorem accept_lastCounter :
    (reassembler.accept contents).1.lastCounter =
      if (reassembler.reception contents.counter contents.pointer).accepts reassembler.state
        then contents.counter else reassembler.lastCounter :=
  receive_lastCounter { reassembler with stats.frames := reassembler.stats.frames + 1 } _ _ _ _

/-- A channel that does not accept a frame waits for the start of a packet. -/
theorem accept_refused
    (refused : (reassembler.reception contents.counter contents.pointer).accepts
      reassembler.state = false) : (reassembler.accept contents).1.state = .idle := by
  have means := reassembler.reception_means contents.counter contents.pointer
  cases reception : reassembler.reception contents.counter contents.pointer with
  | unsynced =>
    rw [reception] at means
    rw [accept_unsynced reception]
    exact means.1
  | idle =>
    rw [reception] at refused
    rw [accept_idle reception]
    cases state : reassembler.state with
    | idle => rfl
    | running => simp [Reception.accepts, state] at refused
  | gap skipped =>
    rw [accept_gap reception]
    rfl
  | outside =>
    rw [accept_outside reception]
    rfl
  | sync offset => simp [Reception.accepts, reception] at refused
  | continuation => simp [Reception.accepts, reception] at refused
  | boundary offset => simp [Reception.accepts, reception] at refused

end Accept

end Reassembler

/-! ### What a channel reads off a frame -/

/-- The zone of a frame for a channel that makes this of the frame. -/
def Reception.look? (reception : Reception) (zone? : Option Bytes) : Option Bytes :=
  if reception.readsZone then zone? else some (zone?.getD [])

namespace Reassembler

/-- What a channel reads off a frame: a zone that it does not look at need not be there. -/
def contentsFor? (reassembler : Reassembler) (frame : Bytes) : Option FrameContents := do
  let pointer ← reassembler.geometry.firstHeaderPointer? frame
  let counter ← FrameField.counter? frame
  let spacecraft ← FrameField.spacecraft? frame
  let zone ← (reassembler.reception counter pointer).look? (reassembler.geometry.zone? frame)
  return ⟨pointer, counter, spacecraft, zone⟩

/-- What is read off a frame are its fields, and its zone when that is looked at. -/
theorem contentsFor?_eq_some_iff {reassembler : Reassembler} {frame : Bytes}
    {contents : FrameContents} :
    reassembler.contentsFor? frame = some contents ↔
      reassembler.geometry.firstHeaderPointer? frame = some contents.pointer ∧
        FrameField.counter? frame = some contents.counter ∧
        FrameField.spacecraft? frame = some contents.spacecraft ∧
        (reassembler.reception contents.counter contents.pointer).look?
          (reassembler.geometry.zone? frame) = some contents.zone := by
  constructor
  · intro read
    simp only [contentsFor?, Option.bind_eq_bind, Option.bind_eq_some_iff] at read
    obtain ⟨pointer, readPointer, counter, readCounter, spacecraft, readSpacecraft, zone, held,
      made⟩ := read
    obtain rfl := Option.some.inj made
    exact ⟨readPointer, readCounter, readSpacecraft, held⟩
  · rintro ⟨readPointer, readCounter, readSpacecraft, held⟩
    simp [contentsFor?, readPointer, readCounter, readSpacecraft, held]

theorem counter_lt_of_contentsFor? {reassembler : Reassembler} {frame : Bytes}
    {contents : FrameContents} (read : reassembler.contentsFor? frame = some contents) :
    contents.counter < counterModulus :=
  Word.read?_lt (contentsFor?_eq_some_iff.mp read).2.1

/-- Taking a frame is taking what is read off it. -/
theorem push_eq_map (reassembler : Reassembler) (frame : Bytes) :
    reassembler.push frame = (reassembler.contentsFor? frame).map reassembler.accept := by
  unfold push contentsFor? Reception.look?
  cases reassembler.geometry.firstHeaderPointer? frame with
  | none => rfl
  | some pointer =>
    cases FrameField.counter? frame with
    | none => rfl
    | some counter =>
      cases FrameField.spacecraft? frame with
      | none => rfl
      | some spacecraft =>
        simp only [Option.bind_eq_bind, Option.bind_some]
        cases (reassembler.reception counter pointer).readsZone with
        | true =>
          cases reassembler.geometry.zone? frame with
          | none => rfl
          | some zone => rfl
        | false =>
          cases reassembler.geometry.zone? frame with
          | none => rfl
          | some zone => rfl

/-- A frame is taken when there is enough of it to be read. -/
theorem push_eq_some_iff {reassembler after : Reassembler} {frame : Bytes}
    {emitted : List FramedPacket} :
    reassembler.push frame = some (after, emitted) ↔
      ∃ contents, reassembler.contentsFor? frame = some contents ∧
        reassembler.accept contents = (after, emitted) := by
  rw [push_eq_map]
  exact Option.map_eq_some_iff

/-! ### Side by side -/

/-- The second channel has counted something earlier, and is given frames whose counters are raised:
when the channels run, the counter that the second one waits for is the raised one of the first. -/
inductive Parallel (shift : Nat) (earlier : ReassemblyStats) (first : Reassembler) :
    Reassembler → Prop
  | beside {lastCounter : Nat}
    (next : first.state = .running →
      (lastCounter + 1) % counterModulus = (first.expected + shift) % counterModulus) :
    Parallel shift earlier first (first.displaced earlier lastCounter)

namespace Parallel

variable {shift : Nat} {earlier : ReassemblyStats} {first second : Reassembler}

/-- A channel that waits does not look at its last counter. -/
theorem of_idle (idle : first.state = .idle) (lastCounter : Nat) :
    Parallel shift earlier first (first.displaced earlier lastCounter) := by
  refine .beside fun running => ?_
  rw [idle] at running
  contradiction

/-- Two channels have accepted the same frame, but for its counter. -/
theorem of_accepted {counter : Nat} (accepted : first.lastCounter = counter) :
    Parallel shift earlier first
      (first.displaced earlier ((counter + shift) % counterModulus)) := by
  refine .beside fun _ => ?_
  simp only [Reassembler.expected, accepted, counterModulus]
  omega

/-- A frame means the same to both. -/
theorem reception_eq (parallel : Parallel shift earlier first second) {counter : Nat}
    (fits : counter < counterModulus) (pointer : Nat) :
    second.reception ((counter + shift) % counterModulus) pointer =
      first.reception counter pointer := by
  obtain ⟨next⟩ := parallel
  unfold reception
  cases state : first.state with
  | idle =>
    simp only [displaced_state, displaced_geometry, state]
    rfl
  | running =>
    have expected := next state
    unfold Reassembler.expected at expected
    have missed : (counter + shift) % counterModulus =
        ((first.lastCounter + 1) % counterModulus + shift) % counterModulus ↔
          counter = (first.lastCounter + 1) % counterModulus :=
      raised_eq_iff shift fits (Nat.mod_lt _ (by decide))
    -- Neither the test for a gap nor its size sees by how much the counters are raised.
    simp only [displaced_state, displaced_geometry, displaced_lastCounter, state, expected,
      skippedFrames_raised, ne_eq, missed]
    rfl

/-- The same contents, but for the counter, keep two channels side by side. -/
theorem accept (parallel : Parallel shift earlier first second) {contents : FrameContents}
    (fits : contents.counter < counterModulus) :
    ∃ after, second.accept (contents.raised shift) = (after, (first.accept contents).2) ∧
      Parallel shift earlier (first.accept contents).1 after := by
  have same := parallel.reception_eq fits contents.pointer
  cases parallel with
  | @beside lastCounter _ =>
    have received := receive_displaced
      { first with stats.frames := first.stats.frames + 1 } contents.spacecraft contents.counter
      contents.zone (first.reception contents.counter contents.pointer) earlier lastCounter
      ((contents.counter + shift) % counterModulus)
    refine ⟨_, (congrArg _ same).trans received, ?_⟩
    cases accepts : (first.reception contents.counter contents.pointer).accepts first.state with
    | true => exact of_accepted ((first.accept_lastCounter contents).trans (if_pos accepts))
    | false => exact of_idle (first.accept_refused contents accepts) _

/-- Both read the same off a frame, but for the counter. -/
theorem contentsFor?_eq (parallel : Parallel shift earlier first second) {frame other : Bytes}
    (raised : first.geometry.Raised shift frame other) :
    second.contentsFor? other = (first.contentsFor? frame).map (·.raised shift) := by
  have geometry : second.geometry = first.geometry := by
    obtain ⟨_⟩ := parallel
    rfl
  unfold contentsFor?
  rw [geometry, raised.pointer, raised.counter, raised.spacecraft, raised.zone]
  cases first.geometry.firstHeaderPointer? frame with
  | none => rfl
  | some pointer =>
    cases counted : FrameField.counter? frame with
    | none => rfl
    | some counter =>
      have same := parallel.reception_eq (Word.read?_lt counted) pointer
      cases FrameField.spacecraft? frame with
      | none => rfl
      | some spacecraft =>
        simp only [Option.map_some, Option.bind_eq_bind, Option.bind_some, same]
        cases (first.reception counter pointer).look? (first.geometry.zone? frame) with
        | none => rfl
        | some zone => rfl

/-- **One frame keeps two channels side by side**, and the same packets come out of both; or it is
too short for both. -/
theorem push (parallel : Parallel shift earlier first second) {frame other : Bytes}
    (raised : first.geometry.Raised shift frame other) :
    first.push frame = none ∧ second.push other = none ∨
      ∃ after after' emitted, first.push frame = some (after, emitted) ∧
        second.push other = some (after', emitted) ∧ Parallel shift earlier after after' := by
  rw [push_eq_map, push_eq_map, parallel.contentsFor?_eq raised]
  cases read : first.contentsFor? frame with
  | none => exact Or.inl ⟨rfl, rfl⟩
  | some contents =>
    obtain ⟨after, accepted, beside⟩ := parallel.accept (counter_lt_of_contentsFor? read)
    exact Or.inr ⟨_, after, _, rfl, congrArg some accepted, beside⟩

end Parallel

end Reassembler

/-! ### What is seen of a channel -/

/-- What is seen of a channel when it has taken a frame. -/
structure Sighting where
  packets : List FramedPacket
  state : ChannelState
  pending : Bytes
  stats : ReassemblyStats

/-- The same, with counts of an earlier time before those that are seen. -/
def Sighting.behind (earlier : ReassemblyStats) (sighting : Sighting) : Sighting :=
  { sighting with stats := earlier + sighting.stats }

theorem Sighting.behind_empty (sighting : Sighting) : sighting.behind {} = sighting := by
  unfold behind
  rw [ReassemblyStats.empty_add]

namespace Reassembler

/-- What is seen of a channel that has just given out these packets. -/
def sighting (reassembler : Reassembler) (packets : List FramedPacket) : Sighting :=
  ⟨packets, reassembler.state, reassembler.pending, reassembler.stats⟩

theorem sighting_displaced (reassembler : Reassembler) (earlier : ReassemblyStats)
    (lastCounter : Nat) (packets : List FramedPacket) :
    (reassembler.displaced earlier lastCounter).sighting packets =
      (reassembler.sighting packets).behind earlier := rfl

/-- What is seen of a channel that takes frames one after another. -/
def sightings (reassembler : Reassembler) : List Bytes → Option (List Sighting)
  | [] => some []
  | frame :: frames => do
    let (after, packets) ← reassembler.push frame
    let later ← after.sightings frames
    return after.sighting packets :: later

/-- Something is seen at every frame of full length. -/
theorem exists_sightings (reassembler : Reassembler) {frames : List Bytes}
    (complete : ∀ frame ∈ frames, reassembler.geometry.frameLength ≤ frame.length) :
    ∃ seen, reassembler.sightings frames = some seen ∧ seen.length = frames.length := by
  induction frames generalizing reassembler with
  | nil => exact ⟨[], rfl, rfl⟩
  | cons frame frames ih =>
    obtain ⟨first, others⟩ := List.forall_mem_cons.mp complete
    obtain ⟨contents, read⟩ := FrameGeometry.exists_contents first
    rw [← (reassembler.accept_same contents).2] at others
    obtain ⟨later, continued, length⟩ := ih _ others
    refine ⟨(reassembler.accept contents).1.sighting (reassembler.accept contents).2 :: later, ?_,
      congrArg (· + 1) length⟩
    simp only [sightings, push_eq_accept read, continued, Option.bind_eq_bind, Option.bind_some,
      Option.pure_def]

/-- **All that is seen of two channels side by side is the same**, but for what one of them had
counted before. -/
theorem Parallel.sightings_eq {shift : Nat} {earlier : ReassemblyStats} {geometry : FrameGeometry}
    {first second : Reassembler} (parallel : Parallel shift earlier first second)
    (same : first.geometry = geometry) {raise : Bytes → Bytes}
    (raised : ∀ frame, geometry.Raised shift frame (raise frame)) (frames : List Bytes) :
    second.sightings (frames.map raise) =
      (first.sightings frames).map (List.map (·.behind earlier)) := by
  induction frames generalizing first second with
  | nil => rfl
  | cons frame frames ih =>
    rw [List.map_cons, sightings, sightings]
    rcases parallel.push (same ▸ raised frame) with
      ⟨ends, ends'⟩ | ⟨after, after', emitted, pushed, pushed', beside⟩
    · rw [ends, ends']
      rfl
    · have later := ih beside ((push_same pushed).2.trans same)
      obtain ⟨_⟩ := beside
      simp only [pushed, pushed', later, sighting_displaced, Option.bind_eq_bind, Option.bind_some]
      cases after.sightings frames with
      | none => rfl
      | some seen => rfl

end Reassembler

end Downlink
