/-
**Mending swapped frames.**

Some recorders swap neighbouring frames. Two frames are held back at a time and the one with the
lower counter goes out first; a counter of 0 is taken for the start of a new round of counting, so
that the other frame goes first. The next frame then takes the free place, and at the end the frame
that is left goes out.

* `inOrder` puts frames in order; a frame without a header ends the input.
-/

import Downlink.Frame.Header

namespace Downlink

/-- A frame and its counter. -/
structure NumberedFrame where
  counter : Nat
  frame : Bytes
  deriving DecidableEq, Repr

namespace NumberedFrame

/-- The frame with its counter, if it has a header. -/
def of? (frame : Bytes) : Option NumberedFrame :=
  (FrameHeader.decode? frame).map fun header => ⟨header.counter, frame⟩

/-- The frames before the first one without a header. -/
def readable : List Bytes → List NumberedFrame
  | [] => []
  | frame :: frames =>
    match of? frame with
    | some numbered => numbered :: readable frames
    | none => []

/-- Whether the frame in the first place goes out before the one in the second. -/
def precedes (first second : NumberedFrame) : Bool :=
  first.counter != 0 && (second.counter == 0 || first.counter < second.counter)

/-- The order in which two frames that are held and those still to come go out. -/
def release (first second : NumberedFrame) : List NumberedFrame → List NumberedFrame
  | [] => if first.precedes second then [first, second] else [second, first]
  | next :: rest =>
    if first.precedes second then first :: release next second rest
    else second :: release first next rest

/-- The order in which frames go out. -/
def released : List NumberedFrame → List NumberedFrame
  | first :: second :: rest => release first second rest
  | few => few

end NumberedFrame

/-- The frames with swapped neighbours put in order. -/
def inOrder (frames : List Bytes) : List Bytes :=
  (NumberedFrame.released (NumberedFrame.readable frames)).map NumberedFrame.frame

end Downlink
