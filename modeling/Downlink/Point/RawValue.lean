/-
**Raw values.**

The raw value of a point is what its field in a packet holds: an integer or a floating-point number
of some width, a text, or bytes. Floating-point numbers are kept as their encodings, so that every
bit of one that is not a number is kept too.

* `RawValue.toFloat` and `RawValue.toInt64`: the number that a raw value stands for; they fail
  exactly for texts and bytes (`isOk_toFloat`, `isOk_toInt64`);
* `RawValue.display`: the text of a raw value.
-/

import Downlink.Decimal.Plain
import Downlink.Error

namespace Downlink

/-- What a field holds. -/
inductive RawValue
  | int8 (value : Int8)
  | int16 (value : Int16)
  | int32 (value : Int32)
  | int64 (value : Int64)
  | uint8 (value : UInt8)
  | uint16 (value : UInt16)
  | uint32 (value : UInt32)
  | uint64 (value : UInt64)
  | single (encoding : UInt32)
  | double (encoding : UInt64)
  | text (content : String)
  | bytes (content : Bytes)
  deriving DecidableEq, Repr

namespace RawValue

/-- Whether the value stands for a number. -/
def isNumeric : RawValue → Bool
  | text _ | bytes _ => false
  | _ => true

/-- The number as a 64-bit floating-point number, rounded if it has too many digits. -/
def toFloat : RawValue → Except ConversionFault Float
  | int8 value => .ok value.toFloat
  | int16 value => .ok value.toFloat
  | int32 value => .ok value.toFloat
  | int64 value => .ok value.toFloat
  | uint8 value => .ok value.toFloat
  | uint16 value => .ok value.toFloat
  | uint32 value => .ok value.toFloat
  | uint64 value => .ok value.toFloat
  | single encoding => .ok (Float32.ofBits encoding).toFloat
  | double encoding => .ok (Float.ofBits encoding)
  | text content => .error (.textNotNumeric content)
  | bytes content => .error (.bytesNotNumeric content)

/-- The number as a 64-bit integer: a larger natural number wraps around; a floating-point number is
cut off toward zero, a larger one is the nearest integer there is, and what is not a number is 0. -/
def toInt64 : RawValue → Except ConversionFault Int64
  | int8 value => .ok value.toInt64
  | int16 value => .ok value.toInt64
  | int32 value => .ok value.toInt64
  | int64 value => .ok value
  | uint8 value => .ok value.toUInt64.toInt64
  | uint16 value => .ok value.toUInt64.toInt64
  | uint32 value => .ok value.toUInt64.toInt64
  | uint64 value => .ok value.toInt64
  | single encoding => .ok (Float32.ofBits encoding).toInt64
  | double encoding => .ok (Float.ofBits encoding).toInt64
  | text content => .error (.textNotNumeric content)
  | bytes content => .error (.bytesNotNumeric content)

/-- A value has a floating-point number exactly when it is numeric. -/
theorem isOk_toFloat (raw : RawValue) : raw.toFloat.isOk = raw.isNumeric := by
  cases raw <;> rfl

/-- A value has an integer exactly when it is numeric. -/
theorem isOk_toInt64 (raw : RawValue) : raw.toInt64.isOk = raw.isNumeric := by
  cases raw <;> rfl

/-- The text of a raw value; of bytes only their number is shown. -/
def display : RawValue → String
  | int8 value => toString value.toInt
  | int16 value => toString value.toInt
  | int32 value => toString value.toInt
  | int64 value => toString value.toInt
  | uint8 value => toString value.toNat
  | uint16 value => toString value.toNat
  | uint32 value => toString value.toNat
  | uint64 value => toString value.toNat
  | single encoding => Decimal.single.plain encoding.toNat
  | double encoding => Decimal.double.plain encoding.toNat
  | text content => content
  | bytes content => "[" ++ toString content.length ++ " bytes]"

end RawValue

end Downlink
