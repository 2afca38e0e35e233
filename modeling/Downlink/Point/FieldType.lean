/-
**Field types.**

The type of a field says how many bytes it takes and how they are read. The digits in a type's name
give the order of its bytes, the most significant being `1`, and a `b` at the end marks a bit field,
which takes some of the bits of its container only.

* `FieldType.width`: the number of bytes;
* `FieldType.decode`: the raw value that the bytes of a field stand for; it fails exactly when a bit
  field does not fit its container.
-/

import Downlink.BitField
import Downlink.Text.Utf8
import Downlink.Word
import Downlink.Point.RawValue

namespace Downlink

/-- How a field is laid out. -/
inductive FieldType
  | f1234
  | f12345678
  | f87654321
  | i1
  | i12
  | i1234
  | i12345678
  /-- A text that ends at the first zero, or else fills the field. -/
  | s1
  | time40
  | time42
  | time44
  | u1
  | u12
  | u1234
  | u12345678
  | u21
  | u4321
  | u1b
  | u12b
  | u1234b
  | u4321b
  | i12b
  | i1234b
  /-- Nothing is read, and the value is a constant 0. -/
  | pseudo
  /-- The value is the whole packet. -/
  | fullPacket
  deriving DecidableEq, Repr

namespace FieldType

/-- All field types. -/
def all : List FieldType :=
  [f1234, f12345678, f87654321, i1, i12, i1234, i12345678, s1, time40, time42, time44, u1, u12,
    u1234, u12345678, u21, u4321, u1b, u12b, u1234b, u4321b, i12b, i1234b, pseudo, fullPacket]

/-- The number of bytes that the field takes; the size that its definition gives counts for texts
only. -/
def width (type : FieldType) (byteSize : Nat) : Nat :=
  match type with
  | i1 | u1 | u1b => 1
  | i12 | u12 | u21 | u12b | i12b => 2
  | f1234 | i1234 | time40 | u1234 | u4321 | u1234b | u4321b | i1234b => 4
  | time42 => 6
  | f12345678 | f87654321 | i12345678 | time44 | u12345678 => 8
  | s1 => byteSize
  | pseudo | fullPacket => 0

/-- Whether the field takes some of the bits of its container. -/
def isBitField : FieldType → Bool
  | u1b | u12b | u1234b | u4321b | i12b | i1234b => true
  | _ => false

/-- A signed integer of two or four bytes that has a range of bits is a bit field, unless the range
holds all of its bits. The range (0, 0) means that none was given. -/
def narrowed (type : FieldType) (start stop : Nat) : FieldType :=
  match type with
  | i12 => if (start, stop) = (0, 0) ∨ (start, stop) = (0, 15) then i12 else i12b
  | i1234 => if (start, stop) = (0, 0) ∨ (start, stop) = (0, 31) then i1234 else i1234b
  | type => type

/-- The text at the start of a field, up to the first zero. -/
def textOf (field : Bytes) : String :=
  Text.ofUtf8 (field.takeWhile (· != 0))

/-- The number that a field spells, its most significant byte first. -/
def number (field : Bytes) : Nat :=
  ByteOrder.mostFirst.value field

/-- The number that a field spells, its least significant byte first. -/
def reversed (field : Bytes) : Nat :=
  ByteOrder.leastFirst.value field

/-- The raw value of a field, whose bit range is `start` to `stop` if it is a bit field. -/
def decode (type : FieldType) (start stop : Nat) (field : Bytes) : Except Error RawValue :=
  let bits (width number : Nat) : Except Error UInt32 :=
    BitField.extract ⟨width, start, stop⟩ (UInt32.ofNat number)
  let signedBits (width number : Nat) : Except Error Int :=
    BitField.extractSigned ⟨width, start, stop⟩ (UInt32.ofNat number)
  match type with
  | f1234 => .ok (.single (UInt32.ofNat (number field)))
  | f12345678 => .ok (.double (UInt64.ofNat (number field)))
  | f87654321 => .ok (.double (UInt64.ofNat (reversed field)))
  | i1 => .ok (.int8 (Int8.ofInt (Word.u1.signed (number field))))
  | i12 => .ok (.int16 (Int16.ofInt (Word.u12.signed (number field))))
  | i1234 => .ok (.int32 (Int32.ofInt (Word.u1234.signed (number field))))
  | i12345678 => .ok (.int64 (Int64.ofInt (Word.u12345678.signed (number field))))
  | s1 => .ok (.text (textOf field))
  | time40 | u1234 => .ok (.uint32 (UInt32.ofNat (number field)))
  | time42 | time44 | u12345678 => .ok (.uint64 (UInt64.ofNat (number field)))
  | u1 => .ok (.uint8 (UInt8.ofNat (number field)))
  | u12 => .ok (.uint16 (UInt16.ofNat (number field)))
  | u21 => .ok (.uint16 (UInt16.ofNat (reversed field)))
  | u4321 => .ok (.uint32 (UInt32.ofNat (reversed field)))
  | u1b => (bits 8 (number field)).map fun value => .uint8 value.toUInt8
  | u12b => (bits 16 (number field)).map fun value => .uint16 value.toUInt16
  | u1234b => (bits 32 (number field)).map .uint32
  | u4321b => (bits 32 (reversed field)).map .uint32
  | i12b => (signedBits 16 (number field)).map fun value => .int16 (Int16.ofInt value)
  | i1234b => (signedBits 32 (number field)).map fun value => .int32 (Int32.ofInt value)
  | pseudo => .ok (.int32 0)
  | fullPacket => .ok (.bytes field)

end FieldType

end Downlink
