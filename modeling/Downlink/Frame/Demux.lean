/-
**Telling the channels apart.**

The frames of up to 64 virtual channels arrive interleaved. A demultiplexer gives each frame to the
reassembler of its channel, which it makes when the channel is first seen; no channel knows of the
others. The first frame that is too short, or is padding, ends the stream for good.

* `Demux.push` takes one frame and `Demux.pushAll` many;
* `framedPackets` gives out all packets, `channelPackets` those of one channel.
-/

import Downlink.Frame.Reassembler

namespace Downlink

/-- The state of all channels. -/
structure Demux where
  geometry : FrameGeometry
  channels : Vector (Option Reassembler) channelCount := Vector.replicate channelCount none
  /-- Whether the stream has ended. -/
  isDone : Bool := false

/-- What became of a frame. -/
structure Delivery where
  /-- Whether a channel has taken the frame. -/
  accepted : Bool
  packets : List FramedPacket

namespace Demux

/-- The reassembler of a channel that has been seen. -/
def channel? (demux : Demux) (channel : Nat) : Option Reassembler :=
  demux.channels[channel]?.join

/-- The channels that have been seen, in ascending order. -/
def channelsSeen (demux : Demux) : List Nat :=
  demux.channels.toList.filterMap fun channel => channel.map Reassembler.channel

/-- The counts of all channels together. -/
def stats (demux : Demux) : ReassemblyStats :=
  demux.channels.toList.foldl
    (fun total channel => (channel.map fun reassembler => total + reassembler.stats).getD total) {}

/-- Whether a frame ends the stream. -/
def ends (geometry : FrameGeometry) (frame : Bytes) : Bool :=
  frame.length < geometry.frameLength || isPadding frame

/-- Takes one frame. Nothing when the frame ends before something that has to be looked at. -/
def push (demux : Demux) (frame : Bytes) : Option (Demux × Delivery) :=
  if demux.isDone then some (demux, ⟨false, []⟩)
  else if ends demux.geometry frame then some ({ demux with isDone := true }, ⟨false, []⟩)
  else do
    let channel ← FrameField.channel? frame
    let known := (demux.channel? channel).getD { channel, geometry := demux.geometry }
    let (reassembler, packets) ← known.push frame
    return ({ demux with channels := demux.channels.setIfInBounds channel (some reassembler) },
      ⟨true, packets⟩)

/-- Takes frames one after another and gives out all packets that they complete. -/
def pushAll (demux : Demux) : List Bytes → Option (Demux × List FramedPacket)
  | [] => some (demux, [])
  | frame :: frames => do
    let (demux, delivery) ← demux.push frame
    let (demux, packets) ← demux.pushAll frames
    return (demux, delivery.packets ++ packets)

end Demux

/-- The packets in interleaved frames, in the order in which the frames complete them. -/
def framedPackets (geometry : FrameGeometry) (frames : List Bytes) : Option (List FramedPacket) :=
  ({ geometry : Demux }.pushAll frames).map (·.2)

/-- Whether a frame matters to a channel: it belongs to it or it ends the stream. -/
def concerns (geometry : FrameGeometry) (channel : Nat) (frame : Bytes) : Bool :=
  Demux.ends geometry frame || FrameField.channel? frame == some channel

/-- The packets of one channel; the frames of the others are passed over. -/
def channelPackets (geometry : FrameGeometry) (channel : Nat) (frames : List Bytes) :
    Option (List FramedPacket) :=
  framedPackets geometry (frames.filter (concerns geometry channel))

end Downlink
