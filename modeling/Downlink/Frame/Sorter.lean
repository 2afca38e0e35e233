/-
**Mending swapped frames as they come in.**

A sorter has two places for frames. As long as frames come in it puts them into the first place that
is free, and whenever both are taken it gives out the frame that precedes the other one. When the
input is at its end, or at a frame without a header, the sorter gives out what it still holds, from
the first place first.

* `FrameSorter.next` is the next frame that goes out;
* a sorter that has no place for a frame has a fault (`SorterFault`), and then gives out nothing.
-/

import Downlink.Frame.Order

namespace Downlink

/-- What can be wrong with a sorter itself, whatever its input is. -/
inductive SorterFault
  /-- Both places are taken when a frame is to come in. -/
  | noFreePlace
  deriving DecidableEq, Repr

/-- The two places for frames that are held back. -/
structure FramePlaces where
  first : Option NumberedFrame := none
  second : Option NumberedFrame := none
  deriving DecidableEq, Repr

namespace FramePlaces

/-- How a frame is put into the first place that is free, if one is. -/
def free? (places : FramePlaces) : Option (NumberedFrame → FramePlaces) :=
  match places.first, places.second with
  | none, _ => some fun frame => { places with first := some frame }
  | some _, none => some fun frame => { places with second := some frame }
  | some _, some _ => none

/-- Of two frames the one that goes out, and the places without it. -/
def choose? (places : FramePlaces) : Option (NumberedFrame × FramePlaces) :=
  match places.first, places.second with
  | some first, some second =>
    if first.precedes second then some (first, { places with first := none })
    else some (second, { places with second := none })
  | _, _ => none

/-- The frame in the first place that is taken, and the places without it. -/
def takeFirst? (places : FramePlaces) : Option (NumberedFrame × FramePlaces) :=
  match places.first, places.second with
  | some first, _ => some (first, { places with first := none })
  | none, some second => some (second, { places with second := none })
  | none, none => none

end FramePlaces

/-- How far a sorter has come. -/
inductive SorterPhase
  | reading
  /-- The input is at its end, and what is held goes out. -/
  | emptying
  | failed
  deriving DecidableEq, Repr

/-- A sorter at work. -/
structure FrameSorter where
  /-- The frames that are still to come. -/
  input : List Bytes
  places : FramePlaces
  phase : SorterPhase
  deriving DecidableEq, Repr

namespace FrameSorter

/-- A sorter before its first frame. -/
def of (frames : List Bytes) : FrameSorter :=
  ⟨frames, {}, .reading⟩

/-- Gives out what is held when no more frames come in. -/
def drain (input : List Bytes) (places : FramePlaces) :
    Option (Except SorterFault Bytes) × FrameSorter :=
  match places.takeFirst? with
  | some (taken, left) => (some (.ok taken.frame), ⟨input, left, .emptying⟩)
  | none => (none, ⟨input, places, .emptying⟩)

/-- Puts frames in until one goes out. -/
def advance (places : FramePlaces) (input : List Bytes) :
    Option (Except SorterFault Bytes) × FrameSorter :=
  match places.free? with
  | none => (some (.error .noFreePlace), ⟨input, places, .failed⟩)
  | some fill =>
    match input with
    | [] => drain [] places
    | frame :: input =>
      match NumberedFrame.of? frame with
      | none => drain input places
      | some numbered =>
        match (fill numbered).choose? with
        | some (chosen, left) => (some (.ok chosen.frame), ⟨input, left, .reading⟩)
        | none => advance (fill numbered) input

/-- The next frame that goes out, or nothing at the end and ever after. -/
def next (sorter : FrameSorter) : Option (Except SorterFault Bytes) × FrameSorter :=
  match sorter.phase with
  | .reading => advance sorter.places sorter.input
  | .emptying => drain sorter.input sorter.places
  | .failed => (none, sorter)

end FrameSorter

end Downlink
