/-
**Decoding with a dictionary.**

* `Dictionary.decodePoint`: the value of one point, found by its id;
* `Dictionary.decodePackets`: the values of all points of many packets; a packet whose APID the
  dictionary does not know has none.
-/

import Downlink.Dictionary.Basic
import Downlink.Packet.View

namespace Downlink.Dictionary

/-- The value of the point of an id in a packet; nothing when there is no such point. -/
def decodePoint (dictionary : Dictionary) (packet : Bytes) (id : String) :
    Except Breach (Option (Except Error EngineeringValue)) :=
  (dictionary.point? id).mapM (·.value packet)

/-- The values of the points of a packet. -/
def decodePacket (dictionary : Dictionary) (packet : Packet) : Except Breach (List DecodedPoint) :=
  match dictionary.packet? packet.header.apid with
  | some definition => definition.decode packet.data
  | none => .ok []

/-- The values of the points of each packet. -/
def decodePackets (dictionary : Dictionary) (packets : List Packet) :
    Except Breach (List (List DecodedPoint)) :=
  packets.mapM dictionary.decodePacket

end Downlink.Dictionary
