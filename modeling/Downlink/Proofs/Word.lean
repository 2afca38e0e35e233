/-
**Words read and written.**

A word of `width` bytes stands for a number below `256 ^ width`, and every such number can be
written:

* `ByteOrder.value_lt`: bytes spell a number of as many base-256 digits;
* `ByteOrder.value_spell` and `ByteOrder.spell_value`: the bytes written for a number read back as
  the number modulo the word's range, and bytes are those written for the number they spell;
* `Bytes.overwrite?_comm`: writes to runs that do not meet can change places;
* `Word.read?_append`: a word is read off the bytes in front, whatever follows;
* `Word.signed_bounds`: the integers that a word holds in two's complement;
* `Word.read?_write?` and `Word.read?_write?_of_disjoint`: what is read after a write, at its place
  and elsewhere.
-/

import Downlink.Word
import Mathlib.Algebra.Group.Int.Defs
import Mathlib.Algebra.Group.Nat.Defs

namespace Downlink

/-- In two's complement, some bits hold as many negative numbers as others. -/
theorem bmod_two_pow_bounds {count : Nat} (positive : 0 < count) (value : Int) :
    -2 ^ (count - 1) ≤ Int.bmod value (2 ^ count) ∧
      Int.bmod value (2 ^ count) < 2 ^ (count - 1) := by
  have double : 2 ^ count = 2 * 2 ^ (count - 1) := by
    rw [← Nat.pow_succ', Nat.succ_eq_add_one, Nat.sub_add_cancel positive]
  have half : ((2 ^ (count - 1) : Nat) : Int) = 2 ^ (count - 1) := by norm_cast
  have low : -(((2 ^ count : Nat) : Int) / 2) ≤ Int.bmod value (2 ^ count) :=
    Int.le_bmod (Nat.two_pow_pos _)
  have high : Int.bmod value (2 ^ count) < (((2 ^ count : Nat) : Int) + 1) / 2 :=
    Int.bmod_lt (Nat.two_pow_pos _)
  rw [← half]
  omega

namespace ByteOrder

theorem leastFirstValue_lt (bytes : Bytes) : leastFirstValue bytes < 256 ^ bytes.length := by
  induction bytes with
  | nil => simp [leastFirstValue]
  | cons byte bytes ih =>
    have digit := byte.toNat_lt
    have step : leastFirstValue (byte :: bytes) = leastFirstValue bytes * 256 + byte.toNat := rfl
    rw [step, List.length_cons, Nat.pow_succ]
    omega

/-- Bytes spell a number of as many base-256 digits. -/
theorem value_lt (order : ByteOrder) (bytes : Bytes) : order.value bytes < 256 ^ bytes.length := by
  cases order
  · have bound := leastFirstValue_lt bytes.reverse
    rw [List.length_reverse] at bound
    exact bound
  · exact leastFirstValue_lt bytes

theorem leastFirstValue_spell (width number : Nat) :
    leastFirstValue (leastFirstSpell width number) = number % 256 ^ width := by
  induction width generalizing number with
  | zero => simp [leastFirstSpell, leastFirstValue, Nat.mod_one]
  | succ width ih =>
    have digit : (UInt8.ofNat (number % 256)).toNat = number % 256 := by simp
    have rest : leastFirstValue (leastFirstSpell (width + 1) number) =
        leastFirstValue (leastFirstSpell width (number / 256)) * 256 + number % 256 := by
      simp only [leastFirstSpell, leastFirstValue, List.foldr_cons, digit]
    rw [rest, ih, Nat.pow_succ, Nat.mul_comm (256 ^ width) 256, Nat.mod_mul]
    omega

/-- Written digits read back as the number modulo the range of the word. -/
@[simp] theorem value_spell (order : ByteOrder) (width number : Nat) :
    order.value (order.spell width number) = number % 256 ^ width := by
  cases order <;> simp [value, spell, leastFirstValue_spell]

theorem leastFirstSpell_value (bytes : Bytes) :
    leastFirstSpell bytes.length (leastFirstValue bytes) = bytes := by
  induction bytes with
  | nil => rfl
  | cons byte bytes ih =>
    have digit := byte.toNat_lt
    have step : leastFirstValue (byte :: bytes) = leastFirstValue bytes * 256 + byte.toNat := rfl
    have low : (leastFirstValue bytes * 256 + byte.toNat) % 256 = byte.toNat := by omega
    have high : (leastFirstValue bytes * 256 + byte.toNat) / 256 = leastFirstValue bytes := by omega
    rw [List.length_cons, step, leastFirstSpell, low, high, ih, UInt8.ofNat_toNat]

/-- Bytes are those written for the number that they spell. -/
@[simp] theorem spell_value (order : ByteOrder) (bytes : Bytes) :
    order.spell bytes.length (order.value bytes) = bytes := by
  cases order
  · show (leastFirstSpell bytes.length (leastFirstValue bytes.reverse)).reverse = bytes
    rw [← List.length_reverse, leastFirstSpell_value, List.reverse_reverse]
  · exact leastFirstSpell_value bytes

end ByteOrder

namespace Bytes

theorem slice?_eq_some {bytes : Bytes} {offset width : Nat}
    (fits : offset + width ≤ bytes.length) :
    bytes.slice? offset width = some ((bytes.drop offset).take width) :=
  if_pos fits

theorem slice?_eq_none {bytes : Bytes} {offset width : Nat}
    (short : bytes.length < offset + width) : bytes.slice? offset width = none :=
  if_neg (Nat.not_le.mpr short)

/-- A run is found behind what stands in front of it, whatever follows. -/
theorem slice?_run (front run rest : Bytes) :
    (front ++ run ++ rest).slice? front.length run.length = some run := by
  rw [slice?_eq_some (by simp), List.append_assoc, List.drop_left, List.take_left]

/-- A write behind what stands in front replaces as many of the bytes that follow. -/
theorem overwrite?_front (front patch : Bytes) {rest : Bytes} (fits : patch.length ≤ rest.length) :
    (front ++ rest).overwrite? front.length patch =
      some (front ++ patch ++ rest.drop patch.length) := by
  rw [overwrite?, if_pos (by rw [List.length_append]; omega), List.take_left, List.drop_append,
    List.drop_of_length_le (Nat.le_add_right _ _), Nat.add_sub_cancel_left, List.nil_append]

/-- An overwrite keeps the bytes before and behind its run. -/
theorem getElem?_overwrite?_of_outside {bytes patch written : Bytes} {offset index : Nat}
    (done : bytes.overwrite? offset patch = some written)
    (outside : index < offset ∨ offset + patch.length ≤ index) :
    written[index]? = bytes[index]? := by
  unfold overwrite? at done
  split at done
  case isTrue fits =>
    obtain rfl := Option.some.inj done
    have front : (bytes.take offset ++ patch).length = offset + patch.length := by
      rw [List.length_append, List.length_take, Nat.min_eq_left (by omega)]
    rcases outside with before | behind
    · rw [List.append_assoc, List.getElem?_append_left (by rw [List.length_take]; omega),
        List.getElem?_take_of_lt before]
    · rw [List.getElem?_append_right (by omega), front, List.getElem?_drop,
        Nat.add_sub_cancel' behind]
  case isFalse => contradiction

/-- Inside the run of an overwrite stand the bytes that were written. -/
theorem getElem?_overwrite?_of_inside {bytes patch written : Bytes} {offset index : Nat}
    (done : bytes.overwrite? offset patch = some written)
    (behind : offset ≤ index) (inside : index < offset + patch.length) :
    written[index]? = patch[index - offset]? := by
  unfold overwrite? at done
  split at done
  case isTrue fits =>
    obtain rfl := Option.some.inj done
    have front : (bytes.take offset).length = offset := by
      rw [List.length_take, Nat.min_eq_left (by omega)]
    rw [List.append_assoc, List.getElem?_append_right (by omega), front,
      List.getElem?_append_left (by omega)]
  case isFalse => contradiction

theorem exists_overwrite? {bytes patch : Bytes} {offset : Nat}
    (fits : offset + patch.length ≤ bytes.length) :
    ∃ written, bytes.overwrite? offset patch = some written :=
  ⟨_, if_pos fits⟩

theorem fits_of_overwrite? {bytes patch written : Bytes} {offset : Nat}
    (done : bytes.overwrite? offset patch = some written) :
    offset + patch.length ≤ bytes.length := by
  unfold overwrite? at done
  split at done
  case isTrue fits => exact fits
  case isFalse => contradiction

/-- Two writes to runs that do not meet can be made the other way round, to the same end. -/
theorem overwrite?_swap {bytes first both patch other : Bytes} {offset start : Nat}
    (apart : offset + patch.length ≤ start ∨ start + other.length ≤ offset)
    (writeFirst : bytes.overwrite? offset patch = some first)
    (writeBoth : first.overwrite? start other = some both) :
    ∃ second, bytes.overwrite? start other = some second ∧
      second.overwrite? offset patch = some both := by
  have fits := fits_of_overwrite? writeFirst
  have otherFits := fits_of_overwrite? writeBoth
  rw [length_overwrite? writeFirst] at otherFits
  obtain ⟨second, writeSecond⟩ := exists_overwrite? otherFits
  rw [← length_overwrite? writeSecond] at fits
  obtain ⟨swapped, writeSwapped⟩ := exists_overwrite? fits
  refine ⟨second, writeSecond, writeSwapped.trans (congrArg some ?_)⟩
  apply List.ext_getElem?
  intro index
  -- an index lies in the one run, in the other, or in neither
  by_cases inFirst : offset ≤ index ∧ index < offset + patch.length
  · rw [getElem?_overwrite?_of_inside writeSwapped inFirst.1 inFirst.2,
      getElem?_overwrite?_of_outside writeBoth (by omega),
      getElem?_overwrite?_of_inside writeFirst inFirst.1 inFirst.2]
  · have outFirst : index < offset ∨ offset + patch.length ≤ index := by omega
    rw [getElem?_overwrite?_of_outside writeSwapped outFirst]
    by_cases inSecond : start ≤ index ∧ index < start + other.length
    · rw [getElem?_overwrite?_of_inside writeSecond inSecond.1 inSecond.2,
        getElem?_overwrite?_of_inside writeBoth inSecond.1 inSecond.2]
    · have outSecond : index < start ∨ start + other.length ≤ index := by omega
      rw [getElem?_overwrite?_of_outside writeSecond outSecond,
        getElem?_overwrite?_of_outside writeBoth outSecond,
        getElem?_overwrite?_of_outside writeFirst outFirst]

/-- Writes to runs that do not meet can change places. -/
theorem overwrite?_comm (bytes : Bytes) {patch other : Bytes} {offset start : Nat}
    (apart : offset + patch.length ≤ start ∨ start + other.length ≤ offset) :
    (bytes.overwrite? offset patch).bind (·.overwrite? start other) =
      (bytes.overwrite? start other).bind (·.overwrite? offset patch) := by
  ext both
  rw [Option.bind_eq_some_iff, Option.bind_eq_some_iff]
  constructor
  · rintro ⟨first, writeFirst, writeBoth⟩
    exact overwrite?_swap apart writeFirst writeBoth
  · rintro ⟨second, writeSecond, writeBoth⟩
    exact overwrite?_swap apart.symm writeSecond writeBoth

/-- A slice that an overwrite does not touch stays as it is. -/
theorem slice?_overwrite?_of_disjoint {bytes patch written : Bytes} {offset start width : Nat}
    (done : bytes.overwrite? offset patch = some written)
    (apart : start + width ≤ offset ∨ offset + patch.length ≤ start) :
    written.slice? start width = bytes.slice? start width := by
  unfold slice?
  rw [length_overwrite? done]
  split
  · refine congrArg some (List.ext_getElem? fun index => ?_)
    rw [List.getElem?_take, List.getElem?_take, List.getElem?_drop, List.getElem?_drop]
    split
    · exact getElem?_overwrite?_of_outside done (by omega)
    · rfl
  · rfl

end Bytes

namespace Word

/-- A word that lies inside the buffer can be read. -/
theorem isSome_read? (word : Word) (bytes : Bytes) (offset : Nat) :
    (word.read? bytes offset).isSome ↔ offset + word.width ≤ bytes.length := by
  unfold read?
  rw [Option.isSome_map]
  by_cases fits : offset + word.width ≤ bytes.length
  · rw [Bytes.slice?_eq_some fits]
    exact ⟨fun _ => fits, fun _ => rfl⟩
  · rw [Bytes.slice?_eq_none (Nat.not_le.mp fits)]
    exact ⟨fun found => absurd found (by simp), fun inside => absurd inside fits⟩

theorem exists_read? (word : Word) (bytes : Bytes) (offset : Nat)
    (fits : offset + word.width ≤ bytes.length) : ∃ number, word.read? bytes offset = some number :=
  Option.isSome_iff_exists.mp ((word.isSome_read? bytes offset).mpr fits)

theorem read?_lt {word : Word} {bytes : Bytes} {offset number : Nat}
    (found : word.read? bytes offset = some number) : number < 256 ^ word.width := by
  obtain ⟨run, sliced, rfl⟩ := Option.map_eq_some_iff.mp found
  have bound := word.order.value_lt run
  rw [Bytes.length_slice? sliced] at bound
  exact bound

/-- A word is read off the bytes in front, whatever follows them. -/
theorem read?_append (word : Word) {bytes : Bytes} {offset : Nat}
    (fits : offset + word.width ≤ bytes.length) (more : Bytes) :
    word.read? (bytes ++ more) offset = word.read? bytes offset := by
  have room : offset + word.width ≤ (bytes ++ more).length := by
    rw [List.length_append]
    omega
  unfold read?
  rw [Bytes.slice?_eq_some fits, Bytes.slice?_eq_some room,
    List.drop_append_of_le_length (by omega),
    List.take_append_of_le_length (by rw [List.length_drop]; omega)]

/-- A word is read off the first bytes of a buffer that are enough for it, if at all. -/
theorem read?_take (word : Word) (bytes : Bytes) {offset count : Nat}
    (inside : offset + word.width ≤ count) :
    word.read? (bytes.take count) offset = word.read? bytes offset := by
  by_cases fits : offset + word.width ≤ bytes.length
  · have room : offset + word.width ≤ (bytes.take count).length := by
      rw [List.length_take]
      exact Nat.le_min.mpr ⟨inside, fits⟩
    have whole := word.read?_append room (bytes.drop count)
    rw [List.take_append_drop] at whole
    exact whole.symm
  · have short : (bytes.take count).length < offset + word.width := by
      rw [List.length_take]
      omega
    rw [read?, read?, Bytes.slice?_eq_none short, Bytes.slice?_eq_none (Nat.not_le.mp fits)]

/-- The bytes that a word is read from are those written for its number. -/
theorem take_of_read? {word : Word} {bytes : Bytes} {offset number : Nat}
    (found : word.read? bytes offset = some number) :
    (bytes.drop offset).take word.width = word.order.spell word.width number := by
  obtain ⟨run, sliced, rfl⟩ := Option.map_eq_some_iff.mp found
  have width := Bytes.length_slice? sliced
  rw [Bytes.slice?] at sliced
  split at sliced
  · rw [← width, ByteOrder.spell_value, width]
    exact Option.some.inj sliced
  · contradiction

/-- A word is read where it was spelled, whatever stands before and behind it. -/
theorem read?_spell (word : Word) (front : Bytes) (number : Nat) (rest : Bytes) :
    word.read? (front ++ word.order.spell word.width number ++ rest) front.length =
      some (number % 256 ^ word.width) := by
  have sliced := Bytes.slice?_run front (word.order.spell word.width number) rest
  rw [ByteOrder.length_spell] at sliced
  rw [read?, sliced, Option.map_some, ByteOrder.value_spell]

/-- A word that lies inside the buffer can be written. -/
theorem exists_write? (word : Word) {bytes : Bytes} {offset : Nat} (number : Nat)
    (fits : offset + word.width ≤ bytes.length) :
    ∃ written, word.write? bytes offset number = some written := by
  unfold write? Bytes.overwrite?
  rw [ByteOrder.length_spell, if_pos fits]
  exact ⟨_, rfl⟩

/-- What is read after a write is what was written, modulo the range of the word. -/
theorem read?_write? {word : Word} {bytes written : Bytes} {offset number : Nat}
    (done : word.write? bytes offset number = some written) :
    word.read? written offset = some (number % 256 ^ word.width) := by
  have sliced := Bytes.slice?_overwrite? done
  rw [ByteOrder.length_spell] at sliced
  rw [read?, sliced, Option.map_some, ByteOrder.value_spell]

/-- A word that a write does not touch reads as before. -/
theorem read?_write?_of_disjoint {word other : Word} {bytes written : Bytes}
    {offset start number : Nat} (done : word.write? bytes offset number = some written)
    (apart : start + other.width ≤ offset ∨ offset + word.width ≤ start) :
    other.read? written start = other.read? bytes start := by
  unfold read?
  rw [Bytes.slice?_overwrite?_of_disjoint done (by rw [ByteOrder.length_spell]; exact apart)]

/-- A stored number stands for an integer of as many bits. -/
theorem signed_bounds (word : Word) {count : Nat} (bits : 8 * word.width = count + 1)
    (number : Nat) : -2 ^ count ≤ word.signed number ∧ word.signed number < 2 ^ count := by
  unfold signed
  rw [Nat.one_shiftLeft, bits]
  exact bmod_two_pow_bounds (Nat.succ_pos count) number

/-- An integer that the word can hold is the signed reading of the number stored for it. -/
theorem signed_ofSigned (word : Word) (value : Int) :
    word.signed (word.ofSigned value) = Int.bmod value (1 <<< (8 * word.width)) := by
  have positive : 0 < 1 <<< (8 * word.width) := by
    rw [Nat.one_shiftLeft]
    exact Nat.two_pow_pos _
  have back : ((word.ofSigned value : Nat) : Int) = value % (1 <<< (8 * word.width) : Nat) :=
    Int.toNat_of_nonneg (Int.emod_nonneg _ (Int.natCast_ne_zero.mpr (Nat.ne_of_gt positive)))
  rw [signed, back, Int.emod_bmod]

end Word

end Downlink
