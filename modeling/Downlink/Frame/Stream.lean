/-
**Reading a stream of frames.**

In a file or stream each frame is wrapped in a record: some bytes before it, usually a sync marker,
and some after it. Bytes in front of the first record may be skipped. A record that is cut off ends
the stream cleanly; a failure of the source is reported once, as the last item.

* `FrameStream.next` reads one frame;
* `readFrames` reads up to so many of them;
* `readFramesAhead` is what a reader hands over that works ahead and keeps the frames in a buffer.
-/

import Downlink.Error
import Downlink.Source

namespace Downlink

/-- The lengths that make up a stream of frames. -/
structure RecordLayout where
  /-- What stands before each frame. -/
  headerLength : Nat := 4
  /-- What stands after each frame. -/
  footerLength : Nat := 0
  /-- What stands before the first record. -/
  skipInitialBytes : Nat := 0
  frameLength : Nat := 1115
  /-- How many places the buffer of a reader that works ahead has. -/
  bufferSize : Nat := 100
  deriving DecidableEq, Repr

namespace RecordLayout

/-- The length of a record. -/
def recordLength (layout : RecordLayout) : Nat :=
  layout.headerLength + layout.frameLength + layout.footerLength

/-- The bytes that one place in the buffer of a reader that works ahead takes: it holds an error, or
a reference to a frame. -/
def placeLength : Nat := 56

/-- The length of the buffer of a reader that works ahead. -/
def bufferLength (layout : RecordLayout) : Nat :=
  placeLength * layout.bufferSize

/-- The frame in a record. -/
def frame (layout : RecordLayout) (record : Bytes) : Bytes :=
  (record.drop layout.headerLength).take layout.frameLength

end RecordLayout

/-- A stream that is being read. -/
structure FrameStream where
  source : Source
  layout : RecordLayout
  /-- Whether the bytes before the first record have been read. -/
  started : Bool := false
  /-- Nothing is read after the end or a failure. -/
  finished : Bool := false

namespace FrameStream

/-- The next record and the source after it. -/
def readRecord (stream : FrameStream) : Except Ending (Bytes × Source) := do
  let skipped := if stream.started then 0 else stream.layout.skipInitialBytes
  let (_, source) ← stream.source.readExact skipped
  source.readExact stream.layout.recordLength

/-- The next frame, or the failure of the source, or nothing at its end and ever after. -/
def next (stream : FrameStream) : Option (Except Error Bytes) × FrameStream :=
  if stream.finished then (none, stream)
  else match stream.readRecord with
    | .ok (record, source) =>
      (some (.ok (stream.layout.frame record)), { stream with source, started := true })
    | .error .complete => (none, { stream with started := true, finished := true })
    | .error (.failed reason) =>
      (some (.error (.io reason)), { stream with started := true, finished := true })

end FrameStream

/-- The first items of a stream of frames. A record that is not empty takes at least one byte, so
without a limit there is at most one item more than there are bytes; a stream of empty records has
no end, and only a limit gives all items that were asked for. The record has to fit a buffer. -/
def readFrames (source : Source) (layout : RecordLayout) (limit : Option Nat) :
    Except Breach (List (Except Error Bytes)) :=
  if bufferBound ≤ layout.recordLength then .error .overflow
  else
    let count := limit.getD (source.remaining + 1)
    .ok (pull FrameStream.next count { source, layout })

/-- The items that a reader working ahead hands over. Its places have to fit a buffer; if then the
record does not, the reader stops before it has read anything. -/
def readFramesAhead (source : Source) (layout : RecordLayout) (limit : Option Nat) :
    Except Breach (List (Except Error Bytes)) :=
  if bufferBound ≤ layout.bufferLength then .error .overflow
  else match readFrames source layout limit with
    | .ok items => .ok items
    | .error _ => .ok []

end Downlink
