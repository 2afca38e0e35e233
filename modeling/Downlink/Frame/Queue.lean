/-
**Packets on demand.**

Frames are taken only when packets are asked for. A queue holds the packets that the frames taken so
far have completed and that have not been asked for yet. When it is asked for a packet and has none,
it takes frames until one completes some, or until the frames or the stream are at their end.

* `PacketQueue.next` is the next packet;
* `PacketQueue.of` queues the packets of all channels, `PacketQueue.ofChannel` those of one.

The packets that are handed out are copies, as the channels use their buffers again
(`DeliveredPacket`).
-/

import Downlink.Error
import Downlink.Frame.Demux

namespace Downlink

/-- A copy of a packet that came out of the frames. -/
structure DeliveredPacket where
  spacecraft : Nat
  channel : Nat
  packet : Packet
  /-- Whether as many bytes were collected as the packet declares. -/
  valid : Bool
  deriving DecidableEq, Repr

/-- A copy of the packet; bytes behind its declared length are left out. -/
def FramedPacket.delivered (framed : FramedPacket) : DeliveredPacket :=
  ⟨framed.spacecraft, framed.channel, framed.view.toPacket, framed.valid⟩

/-- Frames that are taken when packets are asked for. -/
structure PacketQueue where
  /-- The frames that are still to come. -/
  frames : List Bytes
  demux : Demux
  /-- The packets that wait to be asked for. -/
  ready : List DeliveredPacket := []

namespace PacketQueue

/-- Takes frames until one completes a packet. -/
def advance (demux : Demux) : List Bytes → Option (Except Breach DeliveredPacket) × PacketQueue
  | [] => (none, ⟨[], demux, []⟩)
  | frame :: frames =>
    match demux.push frame with
    | none => (some (.error .outOfBounds), ⟨frames, demux, []⟩)
    | some (demux, delivery) =>
      match delivery.packets.map FramedPacket.delivered with
      | packet :: ready => (some (.ok packet), ⟨frames, demux, ready⟩)
      | [] => if demux.isDone then (none, ⟨frames, demux, []⟩) else advance demux frames

/-- The next packet, or nothing at the end. -/
def next (queue : PacketQueue) : Option (Except Breach DeliveredPacket) × PacketQueue :=
  match queue.ready with
  | packet :: ready => (some (.ok packet), { queue with ready })
  | [] => if queue.demux.isDone then (none, queue) else advance queue.demux queue.frames

/-- The packets of all channels. -/
def of (geometry : FrameGeometry) (frames : List Bytes) : PacketQueue :=
  { frames, demux := { geometry } }

/-- The packets of one channel. -/
def ofChannel (geometry : FrameGeometry) (channel : Nat) (frames : List Bytes) : PacketQueue :=
  of geometry (frames.filter (concerns geometry channel))

end PacketQueue

end Downlink
