/-
**Packets and views of them.**

A source may hand out the same buffer again and again, longer or shorter than the packet at its
start. A `PacketView` looks at such a buffer, which only has to hold a primary header; a `Packet` is
a copy of the bytes that belong to the packet.

* `PacketView.data`: the bytes of the buffer up to the declared length;
* `PacketView.toPacket` copies them and `Packet.decode?` does so only when all of them are there;
* `Packet.ofBuffers` copies every buffer that has a header.
-/

import Downlink.Packet.Header

namespace Downlink

/-- A packet of its own. -/
structure Packet where
  header : PrimaryHeader
  /-- All bytes of the packet, its headers included. -/
  data : Bytes
  /-- Where the packet begins in the stream that it was read from. -/
  offset : Nat
  deriving DecidableEq, Repr

/-- A buffer that begins with a primary header. -/
structure PacketView where
  bytes : Bytes
  header : PrimaryHeader
  decoded : PrimaryHeader.decode? bytes = some header

namespace PacketView

/-- The view of a buffer, if it holds a primary header. -/
def of? (bytes : Bytes) : Option PacketView :=
  match decoded : PrimaryHeader.decode? bytes with
  | some header => some ⟨bytes, header, decoded⟩
  | none => none

/-- The length that the header declares for the whole packet. -/
def totalLength (view : PacketView) : Nat :=
  view.header.totalLength

/-- The bytes of the packet, as far as the buffer holds them. -/
def data (view : PacketView) : Bytes :=
  view.bytes.take view.totalLength

/-- Whether the buffer holds the whole packet. -/
def isComplete (view : PacketView) : Bool :=
  view.totalLength ≤ view.bytes.length

/-- The Time42 code; 0 when there is no secondary header, or too little of the buffer for one. -/
def time42 (view : PacketView) : Nat :=
  (PacketField.time42? view.bytes).getD 0

/-- A copy of the packet. -/
def toPacket (view : PacketView) : Packet :=
  ⟨view.header, view.data, 0⟩

end PacketView

namespace Packet

/-- The packet at the start of a buffer that holds all of it; what follows is ignored. -/
def decode? (bytes : Bytes) : Option Packet := do
  let view ← PacketView.of? bytes
  if view.isComplete then some view.toPacket else none

/-- The view of the packet's own bytes. -/
def view? (packet : Packet) : Option PacketView :=
  PacketView.of? packet.data

/-- The Time42 code; 0 when there is none. -/
def time42 (packet : Packet) : Nat :=
  (PacketField.time42? packet.data).getD 0

/-- Copies of the packets in buffers that a source uses again; a buffer too short for a header is
dropped. -/
def ofBuffers (buffers : List Bytes) : List Packet :=
  buffers.filterMap fun bytes => (PacketView.of? bytes).map PacketView.toPacket

/-- The text of a packet. -/
def display (packet : Packet) : String :=
  "Packet\x7bheader: " ++ packet.header.display ++ ", data:[len=" ++ toString packet.data.length ++
    "]\x7d"

end Packet

end Downlink
