/-
**Reading a stream of packets.**

A stream is one packet after another, with nothing between them. Downlinked files are often cut off
inside a packet, so the end of the source ends the stream cleanly even there; a failure of the
source is reported once, as the last item.

* `PacketStream.next` reads one packet;
* `readPackets` reads them all.
-/

import Downlink.Packet.View
import Downlink.Error
import Downlink.Source

namespace Downlink

namespace Packet

/-- Reads one packet. -/
def read (source : Source) : Except Ending (Packet × Source) := do
  let (head, source) ← source.readExact PacketField.headerLength
  match PrimaryHeader.decode? head with
  | none => throw source.ending
  | some header =>
    let (body, source) ← source.readExact (header.lengthField + 1)
    return (⟨header, head ++ body, 0⟩, source)

end Packet

/-- A stream that is being read. -/
structure PacketStream where
  source : Source
  /-- Where the next packet begins. -/
  offset : Nat := 0
  /-- Nothing is read after the end or a failure. -/
  finished : Bool := false

namespace PacketStream

/-- The next packet, or the failure of the source, or nothing at its end and ever after. -/
def next (stream : PacketStream) : Option (Except Error Packet) × PacketStream :=
  if stream.finished then (none, stream)
  else match Packet.read stream.source with
    | .ok (packet, source) =>
      (some (.ok { packet with offset := stream.offset }),
        { stream with source, offset := stream.offset + packet.data.length })
    | .error .complete => (none, { stream with finished := true })
    | .error (.failed reason) => (some (.error (.io reason)), { stream with finished := true })

end PacketStream

/-- Every item of a stream of packets. A packet takes at least one byte, so there is at most one
item more than there are bytes. -/
def readPackets (source : Source) : List (Except Error Packet) :=
  pull PacketStream.next (source.remaining + 1) ⟨source, 0, false⟩

end Downlink
