/-
**Selecting packets.**

A filter keeps the packets of some APIDs whose Time42 code lies in a range, both ends included, and
drops the first few of those.
-/

import Downlink.Packet.View

namespace Downlink

/-- Which packets are kept. -/
structure PacketFilter where
  /-- The APIDs that are kept; all of them when there is no list. -/
  apids : Option (List Nat) := none
  /-- The least Time42 code. -/
  start : Nat := 0
  /-- The greatest Time42 code. -/
  stop : Nat := 0xffffffffffffffff
  /-- How many of the packets that match are dropped before the first one is kept. -/
  skip : Nat := 0
  deriving DecidableEq, Repr

namespace PacketFilter

/-- Whether a packet satisfies the conditions on its APID and time. -/
def accepts (filter : PacketFilter) (view : PacketView) : Bool :=
  filter.start ≤ view.time42 && view.time42 ≤ filter.stop &&
    match filter.apids with
    | some apids => apids.contains view.header.apid
    | none => true

/-- Whether a copied packet satisfies them; one without a header does not. -/
def acceptsPacket (filter : PacketFilter) (packet : Packet) : Bool :=
  packet.view?.any filter.accepts

/-- The packets that are kept. -/
def apply (filter : PacketFilter) (packets : List Packet) : List Packet :=
  (packets.filter filter.acceptsPacket).drop filter.skip

end PacketFilter

end Downlink
