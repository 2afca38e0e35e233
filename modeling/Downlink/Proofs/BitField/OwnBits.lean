/-
**A bit field and its own bits.**

A field is a range of the bits of its container. What it holds is said by these bits alone
(`BitField.SameBits`), whatever the container holds beside them, and two fields that meet hold what
the field of both their ranges does:

* `BitField.digits_congr`, `BitField.digits_join`: the digits of a field are those of its own bits,
  and those of the two parts in which it can be cut;
* `eq_bmod_two_pow_iff`: the integer that some bits stand for in two's complement is the only one
  that is near enough to 0 and differs from them by a multiple of their range;
* `toInt_shiftedSignExtend`: it is found by shifting the bits to the top of a word and back;
* `BitField.extract_holds`: every field that does not fit its container is refused, and every other
  one holds its own bits (`BitField.Holds`).
-/

import Downlink.Proofs.BitField
import Downlink.Proofs.Point.Checked
import Mathlib.Data.Int.ModEq

namespace Downlink

/-! ### Two's complement -/

/-- In two's complement, bits stand for the one integer in their range that is congruent to them. -/
theorem eq_bmod_two_pow_iff {count : Nat} (positive : 0 < count) (value number : Int) :
    value = Int.bmod number (2 ^ count) ↔
      -2 ^ (count - 1) ≤ value ∧ value < 2 ^ (count - 1) ∧ value ≡ number [ZMOD 2 ^ count] := by
  have modulus : ((2 ^ count : Nat) : Int) = 2 ^ count := by norm_cast
  constructor
  · rintro rfl
    obtain ⟨low, high⟩ := bmod_two_pow_bounds positive number
    refine ⟨low, high, ?_⟩
    rw [Int.ModEq, ← modulus, Int.bmod_emod]
  · rintro ⟨low, high, congruent⟩
    rw [Int.ModEq, ← modulus] at congruent
    have double : (2 : Int) ^ count = 2 * 2 ^ (count - 1) := by
      rw [← pow_succ', Nat.sub_add_cancel positive]
    have near : Int.bmod value (2 ^ count) = value := by
      apply Int.bmod_eq_of_le
      · rw [modulus]
        omega
      · rw [modulus]
        omega
    rw [← near, ← Int.emod_bmod, congruent, Int.emod_bmod]

/-- The lowest bits of a word as an integer, the highest of them being the sign: they are shifted to
the top of the word, and back with copies of the sign. -/
def shiftedSignExtend (container : UInt32) (count : Nat) : Int32 :=
  if count = 0 ∨ containerBits ≤ count then container.toInt32
  else (container <<< UInt32.ofNat (containerBits - count)).toInt32 >>>
    Int32.ofNat (containerBits - count)

/-- Shifting to the top multiplies, and shifting back divides by as much. -/
theorem bmod_mul_two_pow {count : Nat} (positive : 0 < count) (shift : Nat) (number : Int) :
    Int.bmod (number * 2 ^ shift) (2 ^ (count + shift)) =
      Int.bmod number (2 ^ count) * 2 ^ shift := by
  obtain ⟨low, high, congruent⟩ := (eq_bmod_two_pow_iff positive _ number).mp rfl
  have power : (2 : Int) ^ (count + shift - 1) = 2 ^ (count - 1) * 2 ^ shift := by
    rw [← pow_add]
    congr 1
    omega
  have scale : (0 : Int) < 2 ^ shift := Int.pow_pos (by decide)
  refine ((eq_bmod_two_pow_iff (by omega) _ _).mpr ⟨?_, ?_, ?_⟩).symm
  · rw [power, ← Int.neg_mul]
    exact Int.mul_le_mul_of_nonneg_right low (Int.le_of_lt scale)
  · rw [power]
    exact Int.mul_lt_mul_of_pos_right high scale
  · rw [pow_add]
    exact congruent.mul_right'

/-- A word is shifted by the amount that is asked for, as long as it has more bits. -/
theorem toNat_shiftAmount {shift : Nat} (small : shift < containerBits) :
    ((Int32.ofNat shift).toBitVec.smod 32).toNat = shift := by
  have amounts : ∀ shift < containerBits,
      ((Int32.ofNat shift).toBitVec.smod 32).toNat = shift := by decide
  exact amounts shift small

/-- Shifting to the top and back gives the bits their sign. -/
theorem toInt_shiftedSignExtend (container : UInt32) (count : Nat) :
    (shiftedSignExtend container count).toInt = signExtend container count := by
  unfold shiftedSignExtend signExtend
  by_cases whole : count = 0 ∨ containerBits ≤ count
  · rw [if_pos whole, if_pos (show count = 0 ∨ 32 ≤ count from whole)]
    exact BitVec.toInt_eq_toNat_bmod container.toBitVec
  · obtain ⟨positive, small⟩ := not_or.mp whole
    rw [if_neg whole, if_neg (show ¬ (count = 0 ∨ 32 ≤ count) from whole), Nat.one_shiftLeft]
    generalize split : containerBits - count = shift
    have width : count + shift = 32 := by
      rw [containerBits] at split small
      omega
    have amount : shift < containerBits := by
      rw [containerBits]
      omega
    have shifted : (container <<< UInt32.ofNat shift).toBitVec.toInt =
        Int.bmod container.toNat (2 ^ count) * 2 ^ shift := by
      have left : (UInt32.ofNat shift).toNat % 32 = shift := by
        rw [UInt32.toNat_ofNat_of_lt' (show shift < 4294967296 by omega),
          Nat.mod_eq_of_lt (show shift < 32 from amount)]
      rw [← bmod_mul_two_pow (Nat.pos_of_ne_zero positive), width, BitVec.toInt_eq_toNat_bmod,
        UInt32.toNat_toBitVec, UInt32.toNat_shiftLeft, left, Nat.shiftLeft_eq,
        Int.natCast_mod, Int.emod_bmod]
      norm_cast
    show ((container <<< UInt32.ofNat shift).toInt32 >>> Int32.ofNat shift).toBitVec.toInt = _
    rw [Int32.toBitVec_shiftRight, BitVec.sshiftRight_eq', BitVec.toInt_sshiftRight,
      toNat_shiftAmount amount, Int.shiftRight_eq_div_pow]
    show (container <<< UInt32.ofNat shift).toBitVec.toInt / _ = _
    rw [shifted]
    push_cast
    exact Int.mul_ediv_cancel _ (Int.ne_of_gt (Int.pow_pos (by decide)))

/-! ### The bits of a field -/

/-- The least significant bits of a container, counted off in a word of as many bits. -/
def checkedLowBits (count : Nat) : Except Breach UInt32 := do
  if containerBits ≤ count then return 0xffffffff
  else
    Breach.overflow.ensure (count < containerBits)
    Breach.overflow.ensure ((1 : UInt32) ≤ 1 <<< UInt32.ofNat count)
    return (1 <<< UInt32.ofNat count) - 1

theorem checkedLowBits_eq (count : Nat) : checkedLowBits count = .ok (lowBits count) := by
  unfold checkedLowBits lowBits
  by_cases whole : containerBits ≤ count
  · rw [if_pos whole, if_pos (show 32 ≤ count from whole)]
    rfl
  · have less : count < containerBits := Nat.not_le.mp whole
    have bits : ∀ count < containerBits, (1 : UInt32) ≤ 1 <<< UInt32.ofNat count := by decide
    rw [if_neg whole, if_neg (show ¬ 32 ≤ count from whole), Breach.ensure_bind less,
      Breach.ensure_bind (bits count less)]
    rfl

namespace BitField

/-- Two numbers have the same bits in the range of the field, counted from the most significant one
in use. -/
def SameBits (field : BitField) (first second : Nat) : Prop :=
  ∀ bit, field.start ≤ bit → bit ≤ field.stop →
    first.testBit (field.width - 1 - bit) = second.testBit (field.width - 1 - bit)

/-- The bits of the field before a place in it. -/
def front (field : BitField) (middle : Nat) : BitField :=
  { field with stop := middle }

/-- The bits of the field behind a place in it. -/
def rear (field : BitField) (middle : Nat) : BitField :=
  { field with start := middle + 1 }

variable {field : BitField}

theorem Fits.front (fits : field.Fits) {middle : Nat} (begun : field.start ≤ middle)
    (before : middle < field.stop) : (field.front middle).Fits :=
  ⟨fits.1, begun, Nat.lt_trans before fits.2.2⟩

theorem Fits.rear (fits : field.Fits) {middle : Nat} (before : middle < field.stop) :
    (field.rear middle).Fits :=
  ⟨fits.1, before, fits.2.2⟩

/-- A field does not see the bits beside it. -/
theorem digits_congr (fits : field.Fits) {first second : Nat}
    (same : field.SameBits first second) : field.digits first = field.digits second := by
  obtain ⟨narrow, forward, inside⟩ := fits
  apply Nat.eq_of_testBit_eq
  intro place
  rw [digits, digits, Nat.testBit_mod_two_pow, Nat.testBit_mod_two_pow, Nat.testBit_div_two_pow,
    Nat.testBit_div_two_pow]
  by_cases held : place < field.size
  · -- The digit at a place is the bit so far before the last one.
    have bit := same (field.stop - place) (by unfold size at held; omega) (Nat.sub_le _ _)
    have counted : field.width - 1 - (field.stop - place) = place + field.behind := by
      unfold behind
      unfold size at held
      omega
    rw [counted] at bit
    rw [bit]
  · rw [decide_eq_false held, Bool.false_and, Bool.false_and]

/-- What two parts of a field hold, put together, is what the field holds. -/
theorem digits_join (fits : field.Fits) {middle : Nat} (begun : field.start ≤ middle)
    (before : middle < field.stop) (number : Nat) :
    field.digits number = (field.front middle).digits number * 2 ^ (field.stop - middle) +
      (field.rear middle).digits number := by
  obtain ⟨narrow, forward, inside⟩ := fits
  have size : field.size = (field.stop - middle) + (field.front middle).size := by
    simp only [BitField.size, BitField.front]
    omega
  have rearSize : (field.rear middle).size = field.stop - middle := by
    simp only [BitField.size, BitField.rear]
    omega
  have behind : (field.front middle).behind = field.behind + (field.stop - middle) := by
    simp only [BitField.behind, BitField.front]
    omega
  have rearBehind : (field.rear middle).behind = field.behind := rfl
  simp only [digits, size, rearSize, behind, rearBehind, Nat.pow_add, Nat.mod_mul,
    Nat.div_div_eq_div_mul]
  rw [Nat.add_comm, Nat.mul_comm]

/-- What the field holds of a container, as bits and as an integer. -/
structure Holds (field : BitField) (container bits : UInt32) (integer : Int) : Prop where
  /-- The bits behind the field are divided away, and those in front of it are left out. -/
  digits : bits.toNat = container.toNat / 2 ^ (field.width - 1 - field.stop) % 2 ^ field.size
  /-- The bits beside the field do not count. -/
  ownBits : ∀ other : UInt32, field.SameBits container.toNat other.toNat →
    field.extract other = .ok bits
  /-- Wherever the field is cut in two, the parts hold what it does. -/
  parts : ∀ middle, field.start ≤ middle → middle < field.stop →
    ∃ front rear, (field.front middle).extract container = .ok front ∧
      (field.rear middle).extract container = .ok rear ∧
      bits.toNat = front.toNat * 2 ^ (field.stop - middle) + rear.toNat
  /-- The integer is the only one in the range of so many bits that is congruent to them. -/
  integer : ∀ value : Int,
    value = integer ↔ -2 ^ (field.size - 1) ≤ value ∧ value < 2 ^ (field.size - 1) ∧
      value ≡ bits.toNat [ZMOD 2 ^ field.size]

theorem holds_of_fits (fits : field.Fits) (container : UInt32) :
    ∃ bits, field.extract container = .ok bits ∧
      field.extractSigned container = .ok (shiftedSignExtend bits field.size).toInt ∧
      field.Holds container bits (shiftedSignExtend bits field.size).toInt := by
  obtain ⟨bits, read, worth⟩ := extract_fits fits container
  have signed : field.extractSigned container =
      .ok (shiftedSignExtend bits field.size).toInt := by
    rw [extractSigned, read, toInt_shiftedSignExtend]
    rfl
  refine ⟨bits, read, signed, worth, fun other same => ?_, fun middle begun before => ?_, ?_⟩
  · obtain ⟨others, readOther, worthOther⟩ := extract_fits fits other
    have equal := worthOther.trans ((digits_congr fits same).symm.trans worth.symm)
    rw [readOther, UInt32.toNat.inj equal]
  · obtain ⟨front, readFront, worthFront⟩ := extract_fits (fits.front begun before) container
    obtain ⟨rear, readRear, worthRear⟩ := extract_fits (fits.rear before) container
    refine ⟨front, rear, readFront, readRear, ?_⟩
    rw [worth, worthFront, worthRear, digits_join fits begun before]
  · have integer := signed.symm.trans (extractSigned_fits fits container)
    rw [Except.ok.inj integer, ← worth]
    exact fun value => eq_bmod_two_pow_iff fits.size_le.1 value bits.toNat

/-- **A field holds its own bits, or is refused.** It is refused exactly when no bit of the
container is in use, when more are than the container has, or when its range is empty or ends behind
them. No step of the extraction is a breach. -/
theorem extract_holds (field : BitField) (container : UInt32) :
    field.checkedExtract container = .ok (field.extract container) ∧
      checkedLowBits field.size = .ok (lowBits field.size) ∧
      field.checkedExtractSigned container = .ok (field.extractSigned container) ∧
      if field.width = 0 ∨ 32 < field.width ∨ field.stop < field.start ∨
          field.width ≤ field.stop then
        field.extract container =
            .error (.invalidBitRange field.start field.stop field.width) ∧
          field.extractSigned container =
            .error (.invalidBitRange field.start field.stop field.width)
      else
        ∃ bits, field.extract container = .ok bits ∧
          field.extractSigned container = .ok (shiftedSignExtend bits field.size).toInt ∧
          field.Holds container bits (shiftedSignExtend bits field.size).toInt := by
  refine ⟨checkedExtract_eq field container, checkedLowBits_eq field.size,
    checkedExtractSigned_eq field container, ?_⟩
  split
  case isTrue outside =>
    have misfit : ¬ field.Fits := by
      rintro ⟨narrow, forward, inside⟩
      omega
    exact ⟨extract_misfit misfit container, extractSigned_misfit misfit container⟩
  case isFalse inside => exact holds_of_fits ⟨by omega, by omega, by omega⟩ container

end BitField

end Downlink
