/-
**What a channel reads off a frame.**

A frame of full length holds everything that a channel looks at (`FrameContents`), so that a channel
can always take it (`Reassembler.accept`). All that follows is about frames of full length, which is
what a channel is promised.

* `FrameGeometry.exists_contents`: the contents of a frame of full length;
* `Reassembler.push_eq_accept`: taking a frame is taking its contents;
* `Reassembler.reception_means`: what a channel makes of a frame, and when.
-/

import Downlink.Frame.Reassembler
import Downlink.Proofs.Packet.Whole

namespace Downlink

/-- Everything in a frame that a channel looks at. -/
structure FrameContents where
  pointer : Nat
  counter : Nat
  spacecraft : Nat
  zone : Bytes
  deriving DecidableEq, Repr

namespace FrameGeometry

variable {geometry : FrameGeometry} {frame : Bytes} {contents : FrameContents}

/-- The contents of a frame, if it holds them all. -/
def contents? (geometry : FrameGeometry) (frame : Bytes) : Option FrameContents := do
  let pointer ← geometry.firstHeaderPointer? frame
  let counter ← FrameField.counter? frame
  let spacecraft ← FrameField.spacecraft? frame
  let zone ← geometry.zone? frame
  return ⟨pointer, counter, spacecraft, zone⟩

/-- The contents are the fields of the frame. -/
theorem contents?_eq_some_iff :
    geometry.contents? frame = some contents ↔
      geometry.firstHeaderPointer? frame = some contents.pointer ∧
        FrameField.counter? frame = some contents.counter ∧
        FrameField.spacecraft? frame = some contents.spacecraft ∧
        geometry.zone? frame = some contents.zone := by
  constructor
  · intro read
    simp only [contents?, Option.bind_eq_bind, Option.bind_eq_some_iff] at read
    obtain ⟨pointer, readPointer, counter, readCounter, spacecraft, readSpacecraft, zone, readZone,
      made⟩ := read
    obtain rfl := Option.some.inj made
    exact ⟨readPointer, readCounter, readSpacecraft, readZone⟩
  · rintro ⟨readPointer, readCounter, readSpacecraft, readZone⟩
    simp [contents?, readPointer, readCounter, readSpacecraft, readZone]

/-- **A frame of full length holds everything a channel looks at.** -/
theorem exists_contents (complete : geometry.frameLength ≤ frame.length) :
    ∃ contents, geometry.contents? frame = some contents := by
  have header : 6 ≤ geometry.headerLength := geometry.header_le
  have pointerField := geometry.pointer_le
  have zoneField := geometry.zone_le
  obtain ⟨pointer, readPointer⟩ :=
    Word.u12.exists_read? frame geometry.headerLength (by simp only [Word.u12]; omega)
  obtain ⟨counter, readCounter⟩ :=
    Word.u123.exists_read? frame 2 (by simp only [Word.u123]; omega)
  obtain ⟨spacecraft, readSpacecraft⟩ :=
    Word.u12.exists_read? frame 0 (by simp only [Word.u12]; omega)
  obtain ⟨zone, readZone⟩ : ∃ zone, geometry.zone? frame = some zone :=
    ⟨_, Bytes.slice?_eq_some (by omega)⟩
  refine ⟨⟨pointer % 0x800, counter, spacecraft / 0x40 % 0x100, zone⟩, ?_⟩
  exact contents?_eq_some_iff.mpr ⟨by rw [firstHeaderPointer?, readPointer]; rfl, readCounter,
    by rw [FrameField.spacecraft?, readSpacecraft]; rfl, readZone⟩

/-- The zone of a frame is as long as the geometry says. -/
theorem length_zone (read : geometry.contents? frame = some contents) :
    contents.zone.length = geometry.zoneLength :=
  Bytes.length_slice? (contents?_eq_some_iff.mp read).2.2.2

/-- A counter is one of those that can follow each other. -/
theorem counter_lt (read : geometry.contents? frame = some contents) :
    contents.counter < counterModulus :=
  Word.read?_lt (contents?_eq_some_iff.mp read).2.1

end FrameGeometry

namespace Reassembler

/-- Takes a frame of full length. -/
def accept (reassembler : Reassembler) (contents : FrameContents) :
    Reassembler × List FramedPacket :=
  { reassembler with stats.frames := reassembler.stats.frames + 1 }.receive contents.spacecraft
    contents.counter contents.zone (reassembler.reception contents.counter contents.pointer)

/-- **Taking a frame is taking its contents.** -/
theorem push_eq_accept {reassembler : Reassembler} {frame : Bytes} {contents : FrameContents}
    (read : reassembler.geometry.contents? frame = some contents) :
    reassembler.push frame = some (reassembler.accept contents) := by
  obtain ⟨pointer, counter, spacecraft, zone⟩ := FrameGeometry.contents?_eq_some_iff.mp read
  simp only [push, pointer, counter, spacecraft, zone, Option.bind_eq_bind, Option.bind_some]
  rfl

/-- The counter that a running channel waits for. -/
def expected (reassembler : Reassembler) : Nat :=
  (reassembler.lastCounter + 1) % counterModulus

end Reassembler

/-- When a frame with this counter and pointer means this to a channel. -/
def Reception.Means (reassembler : Reassembler) (counter pointer : Nat) : Reception → Prop
  | .unsynced => reassembler.state = .idle ∧
      (pointer = noHeaderPointer ∨
        pointer ≠ reassembler.geometry.idlePointer ∧ reassembler.geometry.zoneLength ≤ pointer)
  | .idle => pointer = reassembler.geometry.idlePointer ∧ pointer ≠ noHeaderPointer ∧
      (reassembler.state = .idle ∨
        reassembler.state = .running ∧ counter = reassembler.expected ∧ pointer ≠ 0)
  | .sync offset => reassembler.state = .idle ∧ offset = pointer ∧ pointer ≠ noHeaderPointer ∧
      pointer ≠ reassembler.geometry.idlePointer ∧ pointer < reassembler.geometry.zoneLength
  | .gap skipped => reassembler.state = .running ∧ counter ≠ reassembler.expected ∧
      skipped = skippedFrames reassembler.expected counter
  | .outside => reassembler.state = .running ∧ counter = reassembler.expected ∧
      pointer ≠ noHeaderPointer ∧ pointer ≠ reassembler.geometry.idlePointer ∧
      reassembler.geometry.zoneLength ≤ pointer
  | .continuation => reassembler.state = .running ∧ counter = reassembler.expected ∧
      pointer = noHeaderPointer
  | .boundary offset => reassembler.state = .running ∧ counter = reassembler.expected ∧
      offset = pointer ∧
      (pointer = 0 ∨ pointer ≠ noHeaderPointer ∧ pointer ≠ reassembler.geometry.idlePointer ∧
        pointer < reassembler.geometry.zoneLength)

/-- **What a channel makes of a frame, and when.** -/
theorem Reassembler.reception_means (reassembler : Reassembler) (counter pointer : Nat) :
    (reassembler.reception counter pointer).Means reassembler counter pointer := by
  have zone := reassembler.geometry.zone_pos
  unfold reception
  cases state : reassembler.state with
  | idle =>
    dsimp only
    repeat' split
    all_goals simp_all [Reception.Means]
  | running =>
    dsimp only
    repeat' split
    all_goals simp_all [Reception.Means, expected]

/-! ### The steps, one equation for each reception -/

namespace Reassembler

/-- The channel with the frame of this counter noted as accepted. -/
def noted (reassembler : Reassembler) (counter : Nat) : Reassembler :=
  { reassembler with
    lastCounter := counter
    stats.frames := reassembler.stats.frames + 1 }

section Noted

variable (reassembler : Reassembler) (counter : Nat)

@[simp] theorem noted_channel : (reassembler.noted counter).channel = reassembler.channel := rfl

@[simp] theorem noted_geometry : (reassembler.noted counter).geometry = reassembler.geometry := rfl

@[simp] theorem noted_state : (reassembler.noted counter).state = reassembler.state := rfl

@[simp] theorem noted_lastCounter : (reassembler.noted counter).lastCounter = counter := rfl

@[simp] theorem noted_pending : (reassembler.noted counter).pending = reassembler.pending := rfl

end Noted

variable {reassembler : Reassembler} {contents : FrameContents}

theorem accept_unsynced
    (reception : reassembler.reception contents.counter contents.pointer = .unsynced) :
    reassembler.accept contents =
      ({ reassembler with
        stats.frames := reassembler.stats.frames + 1
        stats.droppedFrames := reassembler.stats.droppedFrames + 1 }, []) := by
  rw [accept, reception]
  rfl

theorem accept_idle (reception : reassembler.reception contents.counter contents.pointer = .idle) :
    reassembler.accept contents =
      ({ reassembler with
        lastCounter :=
          if reassembler.state = .running then contents.counter else reassembler.lastCounter
        stats.frames := reassembler.stats.frames + 1
        stats.idleFrames := reassembler.stats.idleFrames + 1 }, []) := by
  rw [accept, reception]
  rfl

theorem accept_sync {offset : Nat}
    (reception : reassembler.reception contents.counter contents.pointer = .sync offset) :
    reassembler.accept contents =
      { reassembler.noted contents.counter with
        state := .running
        pending := [] }.extract contents.spacecraft (contents.zone.drop offset) := by
  rw [accept, reception]
  rfl

theorem accept_gap {skipped : Nat}
    (reception : reassembler.reception contents.counter contents.pointer = .gap skipped) :
    reassembler.accept contents =
      ({ reassembler with
        stats.frames := reassembler.stats.frames + 1
        stats.gaps := reassembler.stats.gaps + 1
        stats.framesSkipped := reassembler.stats.framesSkipped + skipped }.reset, []) := by
  rw [accept, reception]
  rfl

theorem accept_outside
    (reception : reassembler.reception contents.counter contents.pointer = .outside) :
    reassembler.accept contents = ((reassembler.noted contents.counter).reset, []) := by
  rw [accept, reception]
  rfl

theorem accept_continuation
    (reception : reassembler.reception contents.counter contents.pointer = .continuation) :
    reassembler.accept contents =
      ((reassembler.noted contents.counter).append contents.zone, []) := by
  rw [accept, reception]
  rfl

theorem accept_boundary {offset : Nat}
    (reception : reassembler.reception contents.counter contents.pointer = .boundary offset) :
    reassembler.accept contents =
      let finished := (reassembler.noted contents.counter).finish contents.spacecraft
        (contents.zone.take offset)
      let extracted := finished.1.extract contents.spacecraft (contents.zone.drop offset)
      (extracted.1, finished.2 ++ extracted.2) := by
  rw [accept, reception]
  rfl

end Reassembler

end Downlink
