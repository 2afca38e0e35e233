/-
**Points as records.**

The written form of the values and definitions of points. A point is written with the name of its
conversion and not with the conversion.
-/

import Downlink.Point.Definition
import Downlink.Record.Conversion

namespace Downlink

open Record (Reader Row Value)

namespace FieldType

/-- The word for a field type. -/
def word : FieldType → String
  | f1234 => "F1234"
  | f12345678 => "F12345678"
  | f87654321 => "F87654321"
  | i1 => "I1"
  | i12 => "I12"
  | i1234 => "I1234"
  | i12345678 => "I12345678"
  | s1 => "S1"
  | time40 => "TIME40"
  | time42 => "TIME42"
  | time44 => "TIME44"
  | u1 => "U1"
  | u12 => "U12"
  | u1234 => "U1234"
  | u12345678 => "U12345678"
  | u21 => "U21"
  | u4321 => "U4321"
  | u1b => "U1b"
  | u12b => "U12b"
  | u1234b => "U1234b"
  | u4321b => "U4321b"
  | i12b => "I12b"
  | i1234b => "I1234b"
  | pseudo => "Pseudo"
  | fullPacket => "FullPacketConversion"

/-- The field type as a record. -/
def toValue (type : FieldType) : Value :=
  .text type.word

/-- Reads a field type. -/
def ofValue? : Reader FieldType :=
  Value.word? fun word => all.find? (·.word == word)

end FieldType

/-- A raw value as a record, which does not tell its width. -/
def RawValue.toValue : RawValue → Value
  | .int8 value => .integer value.toInt
  | .int16 value => .integer value.toInt
  | .int32 value => .integer value.toInt
  | .int64 value => .integer value.toInt
  | .uint8 value => .ofNat value.toNat
  | .uint16 value => .ofNat value.toNat
  | .uint32 value => .ofNat value.toNat
  | .uint64 value => .ofNat value.toNat
  | .single encoding => .real (Float32.ofBits encoding).toFloat
  | .double encoding => .real (Float.ofBits encoding)
  | .text content => .text content
  | .bytes content => .ofBytes content

/-- An engineering value as a record of its kind and what it holds. -/
def EngineeringValue.toValue (value : EngineeringValue) : Value :=
  let held : Value := match value with
    | .number held => .real held
    | .enumeration word => .text word
    | .text content => .text content
    | .image held | .spectrum held | .raw held => held.toValue
  .fields [("kind", value.kind.toValue), ("value", held)]

namespace PointDefinition

/-- The definition as a record. -/
def toValue (point : PointDefinition) : Value :=
  .fields [
    ("id", .text point.id),
    ("name", .text point.name),
    ("documentation", .text point.documentation),
    ("apid", .ofNat point.apid),
    ("field_type", point.fieldType.toValue),
    ("byte_offset", .ofNat point.byteOffset),
    ("byte_size", .ofNat point.byteSize),
    ("bit_start", .ofNat point.bitStart),
    ("bit_stop", .ofNat point.bitStop),
    ("units", .text point.units),
    ("conversion", .text point.conversionName)]

/-- Reads a definition; its conversion is the identity until it is linked. -/
def ofValue? : Reader PointDefinition := fun value => do
  let row ← Row.open? 11 value
  return {
    id := ← row.required 0 "id" Value.text?
    name := ← row.required 1 "name" Value.text?
    documentation := ← row.withDefault 2 "documentation" "" Value.text?
    apid := ← row.withDefault 3 "apid" 0 (Value.unsigned? 16)
    fieldType := ← row.required 4 "field_type" FieldType.ofValue?
    byteOffset := ← row.withDefault 5 "byte_offset" 0 (Value.unsigned? 64)
    byteSize := ← row.withDefault 6 "byte_size" 0 (Value.unsigned? 64)
    bitStart := ← row.withDefault 7 "bit_start" 0 (Value.unsigned? 16)
    bitStop := ← row.withDefault 8 "bit_stop" 0 (Value.unsigned? 16)
    units := ← row.withDefault 9 "units" "" Value.text?
    conversionName := ← row.withDefault 10 "conversion" "" Value.text? }

end PointDefinition

end Downlink
