/-
**The layout of a transfer frame.**

After its header, which may hold more than the six bytes of `FrameHeader`, a frame has an M_PDU
header that begins with an 11-bit first header pointer, then the packet zone, then a trailer.

* `FrameLayout.geometry` checks a layout and gives the places of its parts;
* `FrameGeometry.firstHeaderPointer?` reads where in the zone the first packet starts;
* `FrameGeometry.zone?` is the packet zone of a frame.
-/

import Downlink.Frame.Header
import Downlink.Error

namespace Downlink

/-- The pointer of a frame in which no packet starts. -/
def noHeaderPointer : Nat := 0x7ff

/-- The lengths that make up a frame. -/
structure FrameLayout where
  /-- The length of the frame, sync marker and wrapper not counted. -/
  frameLength : Nat := 1115
  /-- The length of the header, an insert zone counted. -/
  headerLength : Nat := FrameField.headerLength
  trailerLength : Nat := 6
  pointerHeaderLength : Nat := 2
  /-- The pointer that marks a frame without packets. -/
  idlePointer : Nat := 0x7fe
  deriving DecidableEq, Repr

/-- The places of the parts of a frame. -/
structure FrameGeometry where
  frameLength : Nat
  headerLength : Nat
  zoneStart : Nat
  zoneLength : Nat
  idlePointer : Nat
  header_le : FrameField.headerLength ≤ headerLength
  pointer_le : headerLength + 2 ≤ zoneStart
  zone_pos : 0 < zoneLength
  zone_le : zoneStart + zoneLength ≤ frameLength
  deriving DecidableEq, Repr

namespace FrameLayout

/-- The bytes of a frame outside its packet zone. -/
def overhead (layout : FrameLayout) : Nat :=
  layout.headerLength + layout.pointerHeaderLength + layout.trailerLength

/-- The geometry of a frame, if its header and pointer fit and something is left for packets. -/
def geometry (layout : FrameLayout) : Except Breach (Except Error FrameGeometry) :=
  if short : layout.headerLength < FrameField.headerLength then
    .ok (.error (.invalidLayout (.shortHeader layout.headerLength)))
  else if narrow : layout.pointerHeaderLength < 2 then
    .ok (.error (.invalidLayout .shortPointerField))
  else if sizeBound ≤ layout.overhead then .error .overflow
  else if full : layout.frameLength ≤ layout.overhead then
    .ok (.error (.invalidLayout (.noPacketZone layout.frameLength layout.overhead)))
  else
    .ok (.ok {
      frameLength := layout.frameLength
      headerLength := layout.headerLength
      zoneStart := layout.headerLength + layout.pointerHeaderLength
      zoneLength := layout.frameLength - layout.overhead
      idlePointer := layout.idlePointer
      header_le := by omega
      pointer_le := by omega
      zone_pos := by omega
      zone_le := by simp only [overhead] at full ⊢; omega })

end FrameLayout

namespace FrameGeometry

/-- The geometry of the default layout. -/
def standard : FrameGeometry where
  frameLength := 1115
  headerLength := FrameField.headerLength
  zoneStart := 8
  zoneLength := 1101
  idlePointer := 0x7fe
  header_le := by decide
  pointer_le := by decide
  zone_pos := by decide
  zone_le := by decide

/-- Where the packet zone ends. -/
def zoneEnd (geometry : FrameGeometry) : Nat :=
  geometry.zoneStart + geometry.zoneLength

/-- The first header pointer of a frame. -/
def firstHeaderPointer? (geometry : FrameGeometry) (frame : Bytes) : Option Nat :=
  (Word.u12.read? frame geometry.headerLength).map (· % 0x800)

/-- The packet zone of a frame. -/
def zone? (geometry : FrameGeometry) (frame : Bytes) : Option Bytes :=
  frame.slice? geometry.zoneStart geometry.zoneLength

end FrameGeometry

end Downlink
