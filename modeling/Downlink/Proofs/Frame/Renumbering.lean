/-
**Raising all counters.**

Where the counters of a channel start is of no account: when all of them are raised by the same
number, round the end if need be, nothing else that is seen of the channel changes.

* `FrameField.raised`: a frame with its counter raised;
* `FrameField.raised_spec`: a channel finds it as it was, but for the counter;
* `Reassembler.sightings_raised`: so it does the same with all frames.
-/

import Downlink.Proofs.Frame.Parallel

namespace Downlink

namespace FrameField

/-- The frame with its counter raised; without a counter it stays as it is. -/
def raised (shift : Nat) (frame : Bytes) : Bytes :=
  ((counter? frame).bind fun counter =>
    Word.u123.write? frame 2 ((counter + shift) % counterModulus)).getD frame

variable {frame : Bytes} {counter : Nat}

/-- The counter is all that is written to. -/
theorem write?_raised (shift : Nat) (read : counter? frame = some counter) :
    Word.u123.write? frame 2 ((counter + shift) % counterModulus) = some (raised shift frame) := by
  have fits := (Word.isSome_read? Word.u123 frame 2).mp (Option.isSome_of_mem read)
  obtain ⟨written, done⟩ := Word.exists_write? Word.u123 ((counter + shift) % counterModulus) fits
  unfold raised
  rw [read, Option.bind_some, done]
  rfl

/-- **A channel finds the frame as it was, but for the counter.** -/
theorem raised_spec (geometry : FrameGeometry) (shift : Nat) (frame : Bytes) :
    geometry.Raised shift frame (raised shift frame) := by
  cases read : counter? frame with
  | none =>
    have same : raised shift frame = frame := by rw [raised, read]; rfl
    rw [same]
    exact ⟨rfl, by rw [read]; rfl, rfl, rfl⟩
  | some counter =>
    have header : 6 ≤ geometry.headerLength := geometry.header_le
    have pointerField := geometry.pointer_le
    have done := write?_raised shift read
    have written : counter? (raised shift frame) = some ((counter + shift) % counterModulus) :=
      (Word.read?_write? done).trans (congrArg some (Nat.mod_mod _ _))
    refine ⟨?_, by rw [read, written]; rfl, ?_, ?_⟩
    · unfold FrameGeometry.firstHeaderPointer?
      rw [Word.read?_write?_of_disjoint done (by simp only [Word.u12, Word.u123]; omega)]
    · unfold spacecraft?
      rw [Word.read?_write?_of_disjoint done (by simp only [Word.u12, Word.u123]; omega)]
    · exact Bytes.slice?_overwrite?_of_disjoint done
        (by rw [ByteOrder.length_spell]; simp only [Word.u123]; omega)

/-- The counter of a raised frame is the raised one. -/
theorem counter?_raised (shift : Nat) (frame : Bytes) :
    counter? (raised shift frame) =
      (counter? frame).map fun counter => (counter + shift) % counterModulus :=
  (raised_spec .standard shift frame).counter

example : raised 3 [64, 5, 255, 255, 254, 0, 7, 254] = [64, 5, 0, 0, 1, 0, 7, 254] := by decide

end FrameField

/-- **It is of no account where the counters start.** Whatever the frames are, raising all their
counters changes nothing of what is seen of a channel frame after frame: the packets, the state, the
bytes that are pending, and the counts. Something is seen at every frame of full length. -/
theorem Reassembler.sightings_raised (channel : Nat) (geometry : FrameGeometry) (shift : Nat)
    (frames : List Bytes) :
    (fresh channel geometry).sightings (frames.map (FrameField.raised shift)) =
        (fresh channel geometry).sightings frames ∧
      ((∀ frame ∈ frames, geometry.frameLength ≤ frame.length) →
        ∃ seen, (fresh channel geometry).sightings frames = some seen ∧
          seen.length = frames.length) := by
  have beside : Parallel shift {} (fresh channel geometry) (fresh channel geometry) :=
    Parallel.of_idle rfl 0
  have same := beside.sightings_eq rfl (FrameField.raised_spec geometry shift) frames
  refine ⟨same.trans ?_, (fresh channel geometry).exists_sightings⟩
  have unmoved : Sighting.behind {} = id := funext Sighting.behind_empty
  rw [unmoved, List.map_id_fun, Option.map_id_fun, id]

/-- Two frames of channel 5 with a packet that begins in the first and ends in the second. -/
def cutPacketFrames : List Bytes :=
  [[64, 5, 0, 0, 0, 0, 0, 0, 8, 1, 192, 0, 0, 1, 17],
    [64, 5, 0, 0, 1, 0, 0, 1, 34, 8, 1, 192, 1, 0, 0]]

/-- Raised by one less than there are counters, the first of them is the last that there is. The
packet comes out at the second frame as it did before. -/
theorem Reassembler.sightings_cutPacketFrames :
    cutPacketFrames.map (FrameField.raised 0xffffff) =
        [[64, 5, 255, 255, 255, 0, 0, 0, 8, 1, 192, 0, 0, 1, 17],
          [64, 5, 0, 0, 0, 0, 0, 1, 34, 8, 1, 192, 1, 0, 0]] ∧
      (∀ frame ∈ cutPacketFrames, FrameGeometry.sevenByteZones.frameLength ≤ frame.length) ∧
      ∃ seen, (fresh 5 .sevenByteZones).sightings cutPacketFrames = some seen ∧
        (fresh 5 .sevenByteZones).sightings
            (cutPacketFrames.map (FrameField.raised 0xffffff)) = some seen ∧
          seen.length = 2 ∧
          seen.map (·.packets.map (·.view.bytes)) = [[], [[8, 1, 192, 0, 0, 1, 17, 34]]] := by
  have full : ∀ frame ∈ cutPacketFrames,
      FrameGeometry.sevenByteZones.frameLength ≤ frame.length := by decide
  have completed : ((fresh 5 .sevenByteZones).sightings cutPacketFrames).map
      (·.map (·.packets.map (·.view.bytes))) =
        some [[], [[8, 1, 192, 0, 0, 1, 17, 34]]] := by decide +kernel
  obtain ⟨same, answered⟩ := sightings_raised 5 .sevenByteZones 0xffffff cutPacketFrames
  obtain ⟨seen, sighted, length⟩ := answered full
  rw [sighted] at completed
  exact ⟨by decide, full, seen, sighted, same.trans sighted, length, Option.some.inj completed⟩

end Downlink
