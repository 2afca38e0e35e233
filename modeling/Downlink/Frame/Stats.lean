/-
**Counting what a channel meets with.**

A channel counts its frames and packets and everything that is lost on the way from the ones to the
others, so that no loss goes unseen.

* `ReassemblyStats.add` puts the counts of two channels together.
-/

namespace Downlink

/-- What a reassembler has met with. -/
structure ReassemblyStats where
  frames : Nat := 0
  /-- Frames that are marked as holding no packets. -/
  idleFrames : Nat := 0
  /-- Frames in which an idle channel could not find the start of a packet. -/
  droppedFrames : Nat := 0
  /-- Frames whose counter was not the expected one. -/
  gaps : Nat := 0
  /-- Frames missing in all gaps. -/
  framesSkipped : Nat := 0
  /-- Packets given out, those of a wrong length counted. -/
  packets : Nat := 0
  /-- Packets whose length is not the declared one, or too short for a header. -/
  lengthMismatches : Nat := 0
  /-- Bytes of packets that were given up. -/
  bytesDiscarded : Nat := 0
  deriving DecidableEq, Repr

namespace ReassemblyStats

/-- The sum, count by count. -/
def add (first second : ReassemblyStats) : ReassemblyStats where
  frames := first.frames + second.frames
  idleFrames := first.idleFrames + second.idleFrames
  droppedFrames := first.droppedFrames + second.droppedFrames
  gaps := first.gaps + second.gaps
  framesSkipped := first.framesSkipped + second.framesSkipped
  packets := first.packets + second.packets
  lengthMismatches := first.lengthMismatches + second.lengthMismatches
  bytesDiscarded := first.bytesDiscarded + second.bytesDiscarded

instance : Add ReassemblyStats := ⟨add⟩

end ReassemblyStats

end Downlink
