/-
**Bit fields.**

A bit field is a range of bits of a 32-bit container, of which the low `width` bits are in use. Bits
are counted from the most significant one in use, so that bit 0 of a 16-bit container is worth
`2 ^ 15`.

* `BitField.extract` gives the bits as a number and `BitField.extractSigned` as a two's complement
  integer;
* both fail exactly when the range does not fit its container (`BitField.Fits`).
-/

import Downlink.Error

namespace Downlink

/-- The `count` least significant bits of a 32-bit container; all of them from 32 on. -/
def lowBits (count : Nat) : UInt32 :=
  if 32 ≤ count then 0xffffffff else (1 <<< UInt32.ofNat count) - 1

/-- The `count` least significant bits of a container as a two's complement integer; the whole
container when `count` is no field size. -/
def signExtend (container : UInt32) (count : Nat) : Int :=
  Int.bmod container.toNat (1 <<< if count = 0 ∨ 32 ≤ count then 32 else count)

/-- Bits `start` to `stop`, both included, of a container with `width` bits in use. -/
structure BitField where
  width : Nat
  start : Nat
  stop : Nat
  deriving DecidableEq, Repr

namespace BitField

/-- The range is not empty and lies inside a container of at most 32 bits. -/
def Fits (field : BitField) : Prop :=
  field.width ≤ 32 ∧ field.start ≤ field.stop ∧ field.stop < field.width

instance (field : BitField) : Decidable field.Fits :=
  inferInstanceAs (Decidable (_ ∧ _ ∧ _))

/-- The number of bits in the field. -/
def size (field : BitField) : Nat :=
  field.stop - field.start + 1

/-- The field as a number. -/
def extract (field : BitField) (container : UInt32) : Except Error UInt32 :=
  if field.Fits then
    .ok ((container >>> UInt32.ofNat (field.width - 1 - field.stop)) &&& lowBits field.size)
  else .error (.invalidBitRange field.start field.stop field.width)

/-- The field as a two's complement integer. -/
def extractSigned (field : BitField) (container : UInt32) : Except Error Int :=
  (field.extract container).map (signExtend · field.size)

end BitField

end Downlink
