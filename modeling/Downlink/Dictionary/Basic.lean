/-
**The mission dictionary.**

A dictionary is made once, from definitions of packets and of conversions, and then only read. When
it is made, each point is linked to the APID of its packet and to a conversion, which is found by
its name:

* a time field wants the time conversion of its type, whatever its definition says;
* any other point wants the conversion that its definition names, or the identity if it names none;
* a point whose conversion is not found has the identity and is reported as unresolved.

Of several conversions with one name the last counts, those that every dictionary has coming first;
of several packets or points with one key the first. Look-ups in the whole dictionary do not regard
the case of letters.
-/

import Downlink.Dictionary.PacketDefinition
import Downlink.Dictionary.Table

namespace Downlink

/-- Conversions by their names. -/
abbrev ConversionTable := Std.HashMap String Conversion

namespace PointDefinition

/-- The name of the conversion that the point is linked to. -/
def linkedName (point : PointDefinition) : String :=
  match point.fieldType with
  | .time40 => Conversion.time40.name
  | .time42 => Conversion.time42.name
  | .time44 => Conversion.time44.name
  | _ => if point.conversionName = "" then Conversion.identity.name else point.conversionName

/-- The point as a part of a packet: with the packet's APID, the type that its bit range asks for
and the conversion of its name. -/
def linked (point : PointDefinition) (apid : Nat) (conversions : ConversionTable) :
    PointDefinition :=
  { point with
    apid
    fieldType := point.fieldType.narrowed point.bitStart point.bitStop
    conversion := conversions[point.linkedName]?.getD .identity }

end PointDefinition

namespace PacketDefinition

/-- The packet with all points linked. -/
def linked (packet : PacketDefinition) (conversions : ConversionTable) : PacketDefinition :=
  { packet with points := packet.points.map (·.linked packet.apid conversions) }

/-- The points for which there is no conversion. -/
def unresolved (packet : PacketDefinition) (conversions : ConversionTable) : List PointDefinition :=
  packet.points.filter (conversions[·.linkedName]?.isNone)

end PacketDefinition

/-- A mission dictionary. -/
structure Dictionary where
  packets : List PacketDefinition
  conversions : ConversionTable
  packetsByApid : Std.HashMap Nat PacketDefinition
  packetsByName : Std.HashMap String PacketDefinition
  packetsById : Std.HashMap String PacketDefinition
  pointsById : Std.HashMap String PointDefinition
  /-- The ids of the points whose conversions were not found. -/
  unresolved : List String

namespace Dictionary

/-- The dictionary of some packets and conversions. -/
def ofDefinitions (packets : List PacketDefinition) (conversions : List Conversion) : Dictionary :=
  let table := lastByKey Conversion.name (Conversion.builtins ++ conversions)
  let linked := packets.map (·.linked table)
  { packets := linked
    conversions := table
    packetsByApid := firstByKey (·.apid) linked
    packetsByName := firstByKey (fun packet => Text.lowercase packet.name) linked
    packetsById := firstByKey (fun packet => Text.lowercase packet.id) linked
    pointsById := firstByKey (fun point => Text.lowercase point.id) (linked.flatMap (·.points))
    unresolved := (packets.flatMap (·.unresolved table)).map (·.id) }

/-! ### Look-ups -/

/-- The first packet of an APID. -/
def packet? (dictionary : Dictionary) (apid : Nat) : Option PacketDefinition :=
  dictionary.packetsByApid[apid]?

/-- All packets of an APID, in the order of definition. -/
def packetsOf (dictionary : Dictionary) (apid : Nat) : List PacketDefinition :=
  dictionary.packets.filter (·.apid == apid)

/-- The first packet of a name. -/
def packetByName? (dictionary : Dictionary) (name : String) : Option PacketDefinition :=
  dictionary.packetsByName[Text.lowercase name]?

/-- The first packet of an id. -/
def packetById? (dictionary : Dictionary) (id : String) : Option PacketDefinition :=
  dictionary.packetsById[Text.lowercase id]?

/-- The first point of an id. -/
def point? (dictionary : Dictionary) (id : String) : Option PointDefinition :=
  dictionary.pointsById[Text.lowercase id]?

/-- The first point of an id in the packet of an APID; here only the case of ASCII letters is not
regarded. -/
def pointIn? (dictionary : Dictionary) (apid : Nat) (id : String) : Option PointDefinition :=
  (dictionary.packet? apid).bind (·.pointById? id)

/-- Whether there is a packet of an APID. -/
def knowsApid (dictionary : Dictionary) (apid : Nat) : Bool :=
  dictionary.packetsByApid.contains apid

/-- The length of the packet of an APID. -/
def packetLength (dictionary : Dictionary) (apid : Nat) : Except Breach (Option Nat) :=
  (dictionary.packet? apid).mapM (·.packetLength)

/-- The conversion of a name. -/
def conversion? (dictionary : Dictionary) (name : String) : Option Conversion :=
  dictionary.conversions[name]?

/-- The packet that a point belongs to, by its APID. -/
def packetOf? (dictionary : Dictionary) (point : PointDefinition) : Option PacketDefinition :=
  dictionary.packet? point.apid

end Dictionary

end Downlink
