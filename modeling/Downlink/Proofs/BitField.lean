/-
**What a bit field is worth.**

The bits of a field are a run of the binary digits of its container: the digits behind the field are
divided away, and those in front of it are more than the field can count (`BitField.digits`).

* `BitField.extract_fits`, `BitField.extractSigned_fits`: a field that fits its container holds
  these digits, as a number or in two's complement;
* `BitField.extract_misfit`, `BitField.extractSigned_misfit`: another one is refused;
* `BitField.digits_lt`, `BitField.bmod_digits_bounds`: what a field holds also fits a word of as
  many bits as the container has in use;
* `BitField.digits_whole`: the field of all bits in use holds what the container does.
-/

import Downlink.BitField
import Downlink.Proofs.Word

namespace Downlink

/-- The low bits of a container are all binary digits below a power of two. -/
theorem toNat_lowBits {count : Nat} (narrow : count ≤ 32) :
    (lowBits count).toNat = 2 ^ count - 1 := by
  unfold lowBits
  split
  case isTrue wide =>
    obtain rfl : count = 32 := Nat.le_antisymm narrow wide
    rfl
  case isFalse less =>
    have small : count < 32 := Nat.not_le.mp less
    have shift : (UInt32.ofNat count).toNat = count :=
      UInt32.toNat_ofNat_of_lt' (show count < 4294967296 by omega)
    have fits : 2 ^ count < 2 ^ 32 := Nat.pow_lt_pow_right (by decide) small
    have bit : ((1 : UInt32) <<< UInt32.ofNat count).toNat = 2 ^ count := by
      rw [UInt32.toNat_shiftLeft, shift, Nat.mod_eq_of_lt small, Nat.shiftLeft_eq, UInt32.toNat_one,
        Nat.one_mul, Nat.mod_eq_of_lt fits]
    have one : (1 : UInt32) ≤ 1 <<< UInt32.ofNat count := by
      rw [UInt32.le_iff_toNat_le, bit]
      exact Nat.one_le_two_pow
    rw [UInt32.toNat_sub_of_le _ _ one, bit]
    rfl

namespace BitField

/-- The number of bits behind the field. -/
def behind (field : BitField) : Nat :=
  field.width - 1 - field.stop

/-- The binary digits of a number that stand where the field does. -/
def digits (field : BitField) (number : Nat) : Nat :=
  number / 2 ^ field.behind % 2 ^ field.size

variable {field : BitField}

theorem Fits.size_le (fits : field.Fits) : 1 ≤ field.size ∧ field.size ≤ field.width := by
  obtain ⟨_, forward, inside⟩ := fits
  unfold size
  omega

/-- A field that fits its container holds the digits that stand there. -/
theorem extract_fits (fits : field.Fits) (container : UInt32) :
    ∃ bits, field.extract container = .ok bits ∧ bits.toNat = field.digits container.toNat := by
  obtain ⟨narrow, _, inside⟩ := id fits
  have shift : (UInt32.ofNat field.behind).toNat = field.behind :=
    UInt32.toNat_ofNat_of_lt' (show field.width - 1 - field.stop < 4294967296 by omega)
  have small : field.behind < 32 := show field.width - 1 - field.stop < 32 by omega
  refine ⟨_, if_pos fits, ?_⟩
  show ((container >>> UInt32.ofNat field.behind) &&& lowBits field.size).toNat = _
  rw [UInt32.toNat_and, UInt32.toNat_shiftRight, shift, Nat.mod_eq_of_lt small,
    toNat_lowBits (Nat.le_trans fits.size_le.2 narrow), Nat.and_two_pow_sub_one_eq_mod,
    Nat.shiftRight_eq_div_pow]
  rfl

/-- A field that does not fit its container is refused. -/
theorem extract_misfit (misfit : ¬ field.Fits) (container : UInt32) :
    field.extract container = .error (.invalidBitRange field.start field.stop field.width) :=
  if_neg misfit

/-- A field that fits its container holds, in two's complement, the digits that stand there. -/
theorem extractSigned_fits (fits : field.Fits) (container : UInt32) :
    field.extractSigned container =
      .ok (Int.bmod (field.digits container.toNat) (2 ^ field.size)) := by
  obtain ⟨bits, read, worth⟩ := extract_fits fits container
  obtain ⟨some, few⟩ := fits.size_le
  have modulus : (1 <<< if field.size = 0 ∨ 32 ≤ field.size then 32 else field.size) =
      2 ^ field.size := by
    have narrow := Nat.le_trans few fits.1
    have count : (if field.size = 0 ∨ 32 ≤ field.size then 32 else field.size) = field.size := by
      split <;> omega
    rw [Nat.one_shiftLeft, count]
  rw [extractSigned, read]
  show Except.ok (signExtend bits field.size) = _
  rw [signExtend, modulus, worth]

theorem extractSigned_misfit (misfit : ¬ field.Fits) (container : UInt32) :
    field.extractSigned container =
      .error (.invalidBitRange field.start field.stop field.width) := by
  rw [extractSigned, extract_misfit misfit]
  rfl

/-! ### Words of as many bits -/

/-- A field holds no more than a word of as many bits as its container has in use. -/
theorem digits_lt (fits : field.Fits) (number : Nat) : field.digits number < 2 ^ field.width :=
  Nat.lt_of_lt_of_le (Nat.mod_lt _ (Nat.two_pow_pos _))
    (Nat.pow_le_pow_right (by decide) fits.size_le.2)

/-- In two's complement a field holds no more than such a word does. -/
theorem bmod_digits_bounds (fits : field.Fits) (number : Nat) :
    -(2 ^ (field.width - 1)) ≤ Int.bmod (field.digits number) (2 ^ field.size) ∧
      Int.bmod (field.digits number) (2 ^ field.size) < 2 ^ (field.width - 1) := by
  obtain ⟨some, few⟩ := fits.size_le
  obtain ⟨low, high⟩ := bmod_two_pow_bounds some (field.digits number)
  have half : (2 : Int) ^ (field.size - 1) ≤ 2 ^ (field.width - 1) := by
    exact_mod_cast Nat.pow_le_pow_right (show 0 < 2 by decide) (show _ ≤ field.width - 1 by omega)
  omega

/-- The field of all bits in use holds what the container does. -/
theorem digits_whole {width number : Nat} (positive : 0 < width) (inUse : number < 2 ^ width) :
    digits ⟨width, 0, width - 1⟩ number = number := by
  have nothing : behind ⟨width, 0, width - 1⟩ = 0 := Nat.sub_self _
  have all : size ⟨width, 0, width - 1⟩ = width := by
    show width - 1 - 0 + 1 = width
    omega
  rw [digits, nothing, all, Nat.pow_zero, Nat.div_one, Nat.mod_eq_of_lt inUse]

end BitField

end Downlink
