/-
**Frames as records.**

The written form of frame headers, of the counts of a reassembler, and of the layouts of frames and
of the records around them. In a layout every field can be left out and then has its usual value.
-/

import Downlink.Frame.Reassembler
import Downlink.Frame.Stream
import Downlink.Record.Reader

namespace Downlink

open Record (Reader Row Value)

namespace FrameHeader

/-- The header as a record. -/
def toValue (header : FrameHeader) : Value :=
  .fields [
    ("version", .ofNat header.version),
    ("scid", .ofNat header.spacecraft),
    ("vcid", .ofNat header.channel),
    ("counter", .ofNat header.counter),
    ("replay", .boolean header.replay)]

/-- Reads a header. -/
def ofValue? : Reader FrameHeader := fun value => do
  let row ← Row.open? 5 value
  return {
    version := ← row.required 0 "version" (Value.unsigned? 8)
    spacecraft := ← row.required 1 "scid" (Value.unsigned? 16)
    channel := ← row.required 2 "vcid" (Value.unsigned? 16)
    counter := ← row.required 3 "counter" (Value.unsigned? 32)
    replay := ← row.required 4 "replay" Value.boolean? }

end FrameHeader

namespace ReassemblyStats

/-- The counts as a record. -/
def toValue (stats : ReassemblyStats) : Value :=
  .fields [
    ("frames", .ofNat stats.frames),
    ("idle_frames", .ofNat stats.idleFrames),
    ("dropped_frames", .ofNat stats.droppedFrames),
    ("gaps", .ofNat stats.gaps),
    ("frames_skipped", .ofNat stats.framesSkipped),
    ("packets", .ofNat stats.packets),
    ("length_mismatches", .ofNat stats.lengthMismatches),
    ("bytes_discarded", .ofNat stats.bytesDiscarded)]

/-- Reads the counts. -/
def ofValue? : Reader ReassemblyStats := fun value => do
  let row ← Row.open? 8 value
  return {
    frames := ← row.required 0 "frames" (Value.unsigned? 64)
    idleFrames := ← row.required 1 "idle_frames" (Value.unsigned? 64)
    droppedFrames := ← row.required 2 "dropped_frames" (Value.unsigned? 64)
    gaps := ← row.required 3 "gaps" (Value.unsigned? 64)
    framesSkipped := ← row.required 4 "frames_skipped" (Value.unsigned? 64)
    packets := ← row.required 5 "packets" (Value.unsigned? 64)
    lengthMismatches := ← row.required 6 "length_mismatches" (Value.unsigned? 64)
    bytesDiscarded := ← row.required 7 "bytes_discarded" (Value.unsigned? 64) }

end ReassemblyStats

namespace FrameLayout

/-- The layout as a record. -/
def toValue (layout : FrameLayout) : Value :=
  .fields [
    ("frame_length", .ofNat layout.frameLength),
    ("header_length", .ofNat layout.headerLength),
    ("trailer_length", .ofNat layout.trailerLength),
    ("mpdu_header_length", .ofNat layout.pointerHeaderLength),
    ("idle_pointer", .ofNat layout.idlePointer)]

/-- Reads a layout. -/
def ofValue? : Reader FrameLayout := fun value => do
  let row ← Row.open? 5 value
  let usual : FrameLayout := {}
  let length place name missing := row.withDefault place name missing (Value.unsigned? 64)
  return {
    frameLength := ← length 0 "frame_length" usual.frameLength
    headerLength := ← length 1 "header_length" usual.headerLength
    trailerLength := ← length 2 "trailer_length" usual.trailerLength
    pointerHeaderLength := ← length 3 "mpdu_header_length" usual.pointerHeaderLength
    idlePointer := ← row.withDefault 4 "idle_pointer" usual.idlePointer (Value.unsigned? 16) }

end FrameLayout

namespace RecordLayout

/-- The layout as a record. -/
def toValue (layout : RecordLayout) : Value :=
  .fields [
    ("header_length", .ofNat layout.headerLength),
    ("footer_length", .ofNat layout.footerLength),
    ("skip_initial_bytes", .ofNat layout.skipInitialBytes),
    ("frame_length", .ofNat layout.frameLength),
    ("buffer_size", .ofNat layout.bufferSize)]

/-- Reads a layout. -/
def ofValue? : Reader RecordLayout := fun value => do
  let row ← Row.open? 5 value
  let usual : RecordLayout := {}
  let length place name missing := row.withDefault place name missing (Value.unsigned? 64)
  return {
    headerLength := ← length 0 "header_length" usual.headerLength
    footerLength := ← length 1 "footer_length" usual.footerLength
    skipInitialBytes := ← length 2 "skip_initial_bytes" usual.skipInitialBytes
    frameLength := ← length 3 "frame_length" usual.frameLength
    bufferSize := ← length 4 "buffer_size" usual.bufferSize }

end RecordLayout

end Downlink
