/-
**Dictionaries as records.**

A dictionary is read from the definitions of its packets and conversions and is linked when it is
read. It is written with its packets only, as they are after linking.
-/

import Downlink.Dictionary.Basic
import Downlink.Record.Point

namespace Downlink

open Record (Reader Row Value)

namespace PacketDefinition

/-- The definition as a record. -/
def toValue (packet : PacketDefinition) : Value :=
  .fields [
    ("apid", .ofNat packet.apid),
    ("id", .text packet.id),
    ("name", .text packet.name),
    ("documentation", .text packet.documentation),
    ("is_table", .boolean packet.isTable),
    ("points", .ofList PointDefinition.toValue packet.points)]

/-- Reads a definition. -/
def ofValue? : Reader PacketDefinition := fun value => do
  let row ← Row.open? 6 value
  return {
    apid := ← row.required 0 "apid" (Value.unsigned? 16)
    id := ← row.required 1 "id" Value.text?
    name := ← row.required 2 "name" Value.text?
    documentation := ← row.withDefault 3 "documentation" "" Value.text?
    isTable := ← row.withDefault 4 "is_table" false Value.boolean?
    points := ← row.withDefault 5 "points" [] (Value.list? PointDefinition.ofValue?) }

end PacketDefinition

namespace Dictionary

/-- The dictionary as a record. -/
def toValue (dictionary : Dictionary) : Value :=
  .fields [("packets", .ofList PacketDefinition.toValue dictionary.packets)]

/-- Reads a dictionary. -/
def ofValue? : Reader Dictionary := fun value => do
  let row ← Row.open? 2 value
  return ofDefinitions
    (← row.required 0 "packets" (Value.list? PacketDefinition.ofValue?))
    (← row.withDefault 1 "conversions" [] (Value.list? Conversion.ofValue?))

end Dictionary

end Downlink
