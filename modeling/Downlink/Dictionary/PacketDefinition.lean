/-
**Packet definitions.**

The definition of a packet lists the points in it.

* `PacketDefinition.point?` and `pointById?` find a point, the case of ASCII letters not regarded;
* `PacketDefinition.decode` gives the values of all points, each on its own.
-/

import Downlink.Point.Definition
import Downlink.Text.Lowercase

namespace Downlink

/-- The definition of the packets of an APID. -/
structure PacketDefinition where
  apid : Nat
  id : String
  name : String
  documentation : String := ""
  /-- Whether the packet is the dump of a table. -/
  isTable : Bool := false
  points : List PointDefinition := []

/-- A point and its value, or the reason why it has none. -/
structure DecodedPoint where
  point : PointDefinition
  value : Except Error EngineeringValue

namespace PacketDefinition

/-- The first point of a name. -/
def point? (packet : PacketDefinition) (name : String) : Option PointDefinition :=
  packet.points.find? fun point => Text.sameAsciiLetters point.name name

/-- The first point of an id. -/
def pointById? (packet : PacketDefinition) (id : String) : Option PointDefinition :=
  packet.points.find? fun point => Text.sameAsciiLetters point.id id

/-- The length of a packet that ends with the last of its fields. -/
def packetLength (packet : PacketDefinition) : Except Breach Nat :=
  packet.points.foldlM (fun length point =>
    let stop := point.byteOffset + point.byteSize
    if sizeBound ≤ stop then .error .overflow else .ok (max length stop)) 0

/-- The values of the points in a packet, in the order of the definition. -/
def decode (definition : PacketDefinition) (packet : Bytes) : Except Breach (List DecodedPoint) :=
  definition.points.mapM fun point => return ⟨point, ← point.value packet⟩

end PacketDefinition

end Downlink
