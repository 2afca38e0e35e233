/-
**Points.**

A point is one measurement in the packets of an APID. Its definition says where its field lies in
the packet and how the field is read and converted.

* `PointDefinition.field`: the bytes that the point is read from;
* `PointDefinition.rawValue` and `PointDefinition.value`: its raw and its engineering value in a
  packet.

These depend on nothing but the definition and the packet, so that a point which cannot be decoded
does not keep the others from being decoded.
-/

import Downlink.Point.Conversion
import Downlink.Point.FieldType

namespace Downlink

/-- The definition of a point. -/
structure PointDefinition where
  /-- The id by which the point is known in the whole dictionary. -/
  id : String
  name : String
  documentation : String := ""
  /-- The APID of the packets that the point is part of. -/
  apid : Nat := 0
  fieldType : FieldType
  /-- Where the field begins in the packet, the primary header counted. -/
  byteOffset : Nat := 0
  /-- The length of the field. -/
  byteSize : Nat := 0
  /-- The first bit of a bit field. -/
  bitStart : Nat := 0
  /-- The last bit of a bit field. -/
  bitStop : Nat := 0
  units : String := ""
  /-- The name of the conversion that is wanted. -/
  conversionName : String := ""
  /-- The conversion that is applied. -/
  conversion : Conversion := .identity

namespace PointDefinition

/-- The point with another conversion, whose name it takes over. -/
def withConversion (point : PointDefinition) (conversion : Conversion) : PointDefinition :=
  { point with conversionName := conversion.name, conversion }

/-- The bytes that the point is read from: none for a constant, all of the packet for a point that
stands for it, and otherwise those of the field, which the packet has to hold. -/
def field (point : PointDefinition) (packet : Bytes) : Except Breach (Except Error Bytes) :=
  match point.fieldType with
  | .pseudo => .ok (.ok [])
  | .fullPacket => .ok (.ok packet)
  | type =>
    let width := type.width point.byteSize
    let stop := point.byteOffset + width
    if sizeBound ≤ stop then .error .overflow
    else match packet.slice? point.byteOffset width with
      | some field => .ok (.ok field)
      | none => .ok (.error (.notEnoughData packet.length stop))

/-- The raw value of the point in a packet. -/
def rawValue (point : PointDefinition) (packet : Bytes) : Except Breach (Except Error RawValue) :=
  (point.field packet).map (· >>= point.fieldType.decode point.bitStart point.bitStop)

/-- The engineering value of the point in a packet. -/
def value (point : PointDefinition) (packet : Bytes) :
    Except Breach (Except Error EngineeringValue) :=
  (point.rawValue packet).map (· >>= point.conversion.apply)

end PointDefinition

end Downlink
