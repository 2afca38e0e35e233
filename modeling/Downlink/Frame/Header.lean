/-
**The header of a transfer frame.**

A frame (VCDU) starts with a header of six bytes: version (2 bits), spacecraft (8), virtual channel
(6), frame counter (24), and a last byte whose top bit marks a replay. Counters run from 0 to
`2 ^ 24 - 1` and start again.

* `FrameField.spacecraft?`, `channel?` and `counter?` read one field and answer nothing when the
  frame ends before it; `FrameHeader.decode?` reads them all;
* `skippedFrames` counts the frames missing between two counters;
* `isPadding` recognises the frames of zeros with which some recorders fill up a file.
-/

import Downlink.Word

namespace Downlink

/-- The number of virtual channels. -/
def channelCount : Nat := 64

/-- The number of frames after which the counter starts again. -/
def counterModulus : Nat := 0x1000000

namespace FrameField

/-- The length of the header. -/
def headerLength : Nat := 6

/-- The spacecraft that sent the frame. -/
def spacecraft? (frame : Bytes) : Option Nat :=
  (Word.u12.read? frame 0).map (· / 0x40 % 0x100)

/-- The virtual channel that the frame belongs to. -/
def channel? (frame : Bytes) : Option Nat :=
  (Word.u1.read? frame 1).map (· % channelCount)

/-- The number of the frame in its channel. -/
def counter? (frame : Bytes) : Option Nat :=
  Word.u123.read? frame 2

end FrameField

/-- The fields of a frame header. -/
structure FrameHeader where
  version : Nat
  spacecraft : Nat
  channel : Nat
  counter : Nat
  replay : Bool
  deriving DecidableEq, Repr

/-- The header at the start of a frame. -/
def FrameHeader.decode? (frame : Bytes) : Option FrameHeader := do
  let first ← Word.u1.read? frame 0
  let last ← Word.u1.read? frame 5
  return {
    version := first / 0x40
    spacecraft := ← FrameField.spacecraft? frame
    channel := ← FrameField.channel? frame
    counter := ← FrameField.counter? frame
    replay := last / 0x80 == 1 }

/-- Whether a frame is too short to be one, or begins with eight zeros. -/
def isPadding (frame : Bytes) : Bool :=
  frame.length < 8 || (frame.take 8).all (· == 0)

/-- How many frames are missing when one with counter `actual` comes in place of `expected`. -/
def skippedFrames (expected actual : Nat) : Nat :=
  (actual % counterModulus + counterModulus - expected % counterModulus) % counterModulus

end Downlink
