/-
**Putting packets together from frames.**

The packet zones of a channel's frames, one after another, hold its packets one after another, so
that a packet may begin in one frame and end in a later one. A reassembler takes the frames of one
channel in the order in which they arrive. It keeps the packet that has begun but not ended, and
gives out each packet when its last byte has come.

An idle channel waits for a frame in which a packet starts. A running channel expects each frame to
carry the counter after the last one; when it does not, or when the pointer lies outside the zone,
the packet that has begun is given up and the channel is idle again.

* `Reassembler.reception` decides what a frame means to a channel;
* `Reassembler.receive` is the step that follows;
* `Reassembler.push` reads the frame and does both.

Everything that is lost is counted in the `ReassemblyStats` of the channel.
-/

import Downlink.Frame.Geometry
import Downlink.Frame.Stats
import Downlink.Packet.View

namespace Downlink

/-- A packet as it came out of the frames. -/
structure FramedPacket where
  spacecraft : Nat
  channel : Nat
  /-- All bytes collected for the packet. -/
  view : PacketView
  /-- Whether there are as many bytes as the packet declares. -/
  valid : Bool

/-- Whether a channel is in step with its packets. -/
inductive ChannelState
  /-- Waiting for a frame in which a packet starts. -/
  | idle
  /-- The next byte of the zone is the next byte of a packet. -/
  | running
  deriving DecidableEq, Repr

/-- The state of one channel. -/
structure Reassembler where
  channel : Nat
  geometry : FrameGeometry
  state : ChannelState := .idle
  /-- The counter of the last frame that was accepted. -/
  lastCounter : Nat := 0
  /-- The packet that has begun but not ended. -/
  pending : Bytes := []
  stats : ReassemblyStats := {}

/-- What a frame means to a channel. -/
inductive Reception
  /-- An idle channel finds no start of a packet. -/
  | unsynced
  /-- The frame holds no packets. -/
  | idle
  /-- An idle channel finds a packet starting so far into the zone. -/
  | sync (offset : Nat)
  /-- So many frames are missing before this one. -/
  | gap (skipped : Nat)
  /-- The pointer lies outside the zone. -/
  | outside
  /-- The whole zone continues the pending packet. -/
  | continuation
  /-- The zone continues the pending packet up to the offset, where the next packet starts. -/
  | boundary (offset : Nat)
  deriving DecidableEq, Repr

/-- Whether the packet zone of the frame is looked at. -/
def Reception.readsZone : Reception → Bool
  | .sync _ | .continuation | .boundary _ => true
  | _ => false

namespace Reassembler

/-- Gives up the pending packet and waits for the start of another. -/
def reset (reassembler : Reassembler) : Reassembler :=
  { reassembler with
    state := .idle
    pending := []
    stats.bytesDiscarded := reassembler.stats.bytesDiscarded + reassembler.pending.length }

/-- Continues the pending packet; one that grows longer than any packet is given up. -/
def append (reassembler : Reassembler) (bytes : Bytes) : Reassembler :=
  if PacketField.longestPacket < reassembler.pending.length + bytes.length then reassembler.reset
  else { reassembler with pending := reassembler.pending ++ bytes }

/-- Gives out the pending packet, unless it is too short to have a header. -/
def emit (reassembler : Reassembler) (spacecraft : Nat) : Reassembler × List FramedPacket :=
  match PacketView.of? reassembler.pending with
  | none =>
    ({ reassembler with
      pending := []
      stats.lengthMismatches := reassembler.stats.lengthMismatches + 1
      stats.bytesDiscarded := reassembler.stats.bytesDiscarded + reassembler.pending.length }, [])
  | some view =>
    let valid := view.totalLength == reassembler.pending.length
    ({ reassembler with
      pending := []
      stats.packets := reassembler.stats.packets + 1
      stats.lengthMismatches := reassembler.stats.lengthMismatches + if valid then 0 else 1 },
      [⟨spacecraft, reassembler.channel, view, valid⟩])

/-- Takes packets from the rest of a zone, at the start of which a packet starts. What is left after
the last whole packet is pending. -/
def extract (reassembler : Reassembler) (spacecraft : Nat) (zone : Bytes) :
    Reassembler × List FramedPacket :=
  match _declared : PacketField.totalLength? zone with
  | none => ({ reassembler with pending := zone }, [])
  | some total =>
    if zone.length < total then ({ reassembler with pending := zone }, [])
    else
      let (reassembler, first) := { reassembler with pending := zone.take total }.emit spacecraft
      let (reassembler, others) := reassembler.extract spacecraft (zone.drop total)
      (reassembler, first ++ others)
termination_by zone.length
decreasing_by
  have := PacketField.headerLength_lt_totalLength? (by assumption)
  simp only [List.length_drop]
  omega

/-- Ends the pending packet with the bytes before the start of the next one. They are lost when no
packet is pending, and both are when the packet grows longer than any packet. -/
def finish (reassembler : Reassembler) (spacecraft : Nat) (bytes : Bytes) :
    Reassembler × List FramedPacket :=
  if reassembler.pending.isEmpty then
    ({ reassembler with
      stats.bytesDiscarded := reassembler.stats.bytesDiscarded + bytes.length }, [])
  else
    let extended := reassembler.append bytes
    if extended.state = .running then extended.emit spacecraft
    else ({ extended with state := .running }, [])

/-- What a frame with this counter and pointer means to the channel. -/
def reception (reassembler : Reassembler) (counter pointer : Nat) : Reception :=
  let geometry := reassembler.geometry
  match reassembler.state with
  | .idle =>
    if pointer = noHeaderPointer then .unsynced
    else if pointer = geometry.idlePointer then .idle
    else if geometry.zoneLength ≤ pointer then .unsynced
    else .sync pointer
  | .running =>
    let expected := (reassembler.lastCounter + 1) % counterModulus
    if counter ≠ expected then .gap (skippedFrames expected counter)
    else if pointer = 0 then .boundary 0
    else if pointer = noHeaderPointer then .continuation
    else if pointer = geometry.idlePointer then .idle
    else if pointer < geometry.zoneLength then .boundary pointer
    else .outside

/-- Does what a frame asks for, given its packet zone. -/
def receive (reassembler : Reassembler) (spacecraft counter : Nat) (zone : Bytes) :
    Reception → Reassembler × List FramedPacket
  | .unsynced =>
    ({ reassembler with stats.droppedFrames := reassembler.stats.droppedFrames + 1 }, [])
  | .idle =>
    ({ reassembler with
      lastCounter := if reassembler.state = .running then counter else reassembler.lastCounter
      stats.idleFrames := reassembler.stats.idleFrames + 1 }, [])
  | .sync offset =>
    { reassembler with state := .running, lastCounter := counter, pending := [] }.extract spacecraft
      (zone.drop offset)
  | .gap skipped =>
    ({ reassembler with
      stats.gaps := reassembler.stats.gaps + 1
      stats.framesSkipped := reassembler.stats.framesSkipped + skipped }.reset, [])
  | .outside => ({ reassembler with lastCounter := counter }.reset, [])
  | .continuation => ({ reassembler with lastCounter := counter }.append zone, [])
  | .boundary offset =>
    let (reassembler, completed) :=
      { reassembler with lastCounter := counter }.finish spacecraft (zone.take offset)
    let (reassembler, others) := reassembler.extract spacecraft (zone.drop offset)
    (reassembler, completed ++ others)

/-- Takes the next frame of the channel and gives out the packets that it completes; nothing when
the frame ends before something that has to be looked at. -/
def push (reassembler : Reassembler) (frame : Bytes) :
    Option (Reassembler × List FramedPacket) := do
  let pointer ← reassembler.geometry.firstHeaderPointer? frame
  let counter ← FrameField.counter? frame
  let spacecraft ← FrameField.spacecraft? frame
  let reception := reassembler.reception counter pointer
  let counted := { reassembler with stats.frames := reassembler.stats.frames + 1 }
  match reassembler.geometry.zone? frame with
  | some zone => some (counted.receive spacecraft counter zone reception)
  | none =>
    if reception.readsZone then none else some (counted.receive spacecraft counter [] reception)

/-- The text of a reassembler. -/
def display (reassembler : Reassembler) : String :=
  let state := match reassembler.state with
    | .idle => "Idle"
    | .running => "Running"
  "ChannelReassembler\x7bvcid=" ++ toString reassembler.channel ++ ", state=" ++ state ++
    ", last_counter=" ++ toString reassembler.lastCounter ++
    ", packet_len=" ++ toString reassembler.pending.length ++ "\x7d"

end Reassembler

end Downlink
