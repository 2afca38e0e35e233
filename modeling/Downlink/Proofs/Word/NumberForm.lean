/-
**Numbers of a form.**

A number is stored as a word: a natural number as it is, an integer in two's complement, and a
floating-point number by its encoding, every bit of which counts. A form (`NumberForm`) says what
kind of number it is and which word it is stored as. Writing a number and reading it are then one
definition each for all forms, in which only the numbers of six bytes are special: they lie in a
register of eight bytes, the first two of which are left out.

* `NumberForm.ofStored_stored`, `NumberForm.stored_ofStored`: numbers and words stand for each
  other;
* `NumberForm.put_fits`, `NumberForm.get_fits`, `NumberForm.put_misfit`, `NumberForm.get_misfit`:
  a number is written and read in place where its word is;
* `NumberForm.accesses`: what is written is read, what was read is written back without a trace, the
  last write counts, nothing else is touched, and writes to different places can change places.
-/

import Downlink.Proofs.Word.InPlace

namespace Downlink

/-! ### Bytes in front of a word -/

namespace ByteOrder

theorem take_leastFirstSpell (width extra number : Nat) :
    (leastFirstSpell (width + extra) number).take width = leastFirstSpell width number := by
  induction width generalizing number with
  | zero => rfl
  | succ width ih =>
    rw [Nat.succ_add, leastFirstSpell, leastFirstSpell, List.take_succ_cons, ih]

/-- Without the first bytes of a wider word, the others spell the low digits of its number. -/
theorem drop_spell_mostFirst (extra width number : Nat) :
    (spell .mostFirst (width + extra) number).drop extra = spell .mostFirst width number := by
  rw [spell, spell, List.drop_reverse, length_leastFirstSpell, Nat.add_sub_cancel,
    take_leastFirstSpell]

/-- Zeros in front of a word do not change its number. -/
theorem value_mostFirst_zeros (count : Nat) (bytes : Bytes) :
    value .mostFirst (List.replicate count 0 ++ bytes) = value .mostFirst bytes := by
  rw [value, value, List.reverse_append, List.reverse_replicate, leastFirstValue,
    List.foldr_append]
  congr 1
  induction count with
  | zero => rfl
  | succ count ih => rw [List.replicate_succ, List.foldr_cons, ih]; rfl

end ByteOrder

/-! ### Words and machine numbers -/

theorem ofNat_word16 (number : UInt16) : UInt16.ofNat (number.toNat % 256 ^ 2) = number := by
  rw [Nat.mod_eq_of_lt (show number.toNat < 256 ^ 2 from number.toNat_lt), UInt16.ofNat_toNat]

theorem ofNat_word32 (number : UInt32) : UInt32.ofNat (number.toNat % 256 ^ 4) = number := by
  rw [Nat.mod_eq_of_lt (show number.toNat < 256 ^ 4 from number.toNat_lt), UInt32.ofNat_toNat]

theorem ofNat_word64 (number : UInt64) : UInt64.ofNat (number.toNat % 256 ^ 8) = number := by
  rw [Nat.mod_eq_of_lt (show number.toNat < 256 ^ 8 from number.toNat_lt), UInt64.ofNat_toNat]

theorem ofInt_word32 (number : Int32) :
    Int32.ofInt (Word.u1234.signed (Word.u1234.ofSigned number.toInt % 256 ^ 4)) = number := by
  have inRange : Word.u1234.ofSigned number.toInt < 256 ^ 4 := by
    have low := Int.emod_lt_of_pos number.toInt (show (0 : Int) < 4294967296 by decide)
    show (number.toInt % 4294967296).toNat < 256 ^ 4
    omega
  rw [Nat.mod_eq_of_lt inRange, Word.signed_ofSigned]
  show Int32.ofInt (Int.bmod number.toInt 4294967296) = number
  rw [Int32.toInt_bmod, Int32.ofInt_toInt]

/-- A word is the one of the integer that it stands for. -/
theorem ofSigned_word32 {stored : Nat} (inRange : stored < 256 ^ 4) :
    Word.u1234.ofSigned (Int32.ofInt (Word.u1234.signed stored)).toInt = stored := by
  rw [Int32.toInt_ofInt]
  show ((Int.bmod (Int.bmod stored 4294967296) 4294967296) % (4294967296 : Nat)).toNat = stored
  rw [Int.bmod_bmod, Int.bmod_emod]
  omega

/-! ### Forms -/

/-- A floating-point number of 32 bits, told by its encoding. -/
structure SinglePrecision where
  encoding : UInt32
  deriving DecidableEq, Repr

/-- A floating-point number of 64 bits, told by its encoding. -/
structure DoublePrecision where
  encoding : UInt64
  deriving DecidableEq, Repr

/-- How a number is stored: natural numbers of some bytes in some order, an integer, and
floating-point numbers of two sizes. -/
inductive NumberForm
  | u12
  | u21
  | u1234
  | u4321
  | i1234
  | u123456
  | u12345678
  | f1234
  | f12345678
  deriving DecidableEq, Repr

namespace NumberForm

/-- The word that a number is stored as. -/
def word : NumberForm → Word
  | u12 => .u12
  | u21 => .u21
  | u1234 | i1234 | f1234 => .u1234
  | u4321 => .u4321
  | u123456 => .u123456
  | u12345678 | f12345678 => .u12345678

/-- The numbers of a form. -/
def Number : NumberForm → Type
  | u12 | u21 => UInt16
  | u1234 | u4321 => UInt32
  | i1234 => Int32
  | u123456 | u12345678 => UInt64
  | f1234 => SinglePrecision
  | f12345678 => DoublePrecision

/-- The number of bytes that a number has in a register. -/
def registerWidth : NumberForm → Nat
  | u123456 => 8
  | form => form.word.width

/-- The natural number that is stored for a number. -/
def stored : (form : NumberForm) → form.Number → Nat
  | u12, number | u21, number => UInt16.toNat number
  | u1234, number | u4321, number => UInt32.toNat number
  | i1234, number => Word.u1234.ofSigned (Int32.toInt number)
  | u123456, number | u12345678, number => UInt64.toNat number
  | f1234, number => (SinglePrecision.encoding number).toNat
  | f12345678, number => (DoublePrecision.encoding number).toNat

/-- The number that a natural number is stored for. -/
def ofStored : (form : NumberForm) → Nat → form.Number
  | u12, stored | u21, stored => UInt16.ofNat stored
  | u1234, stored | u4321, stored => UInt32.ofNat stored
  | i1234, stored => Int32.ofInt (Word.u1234.signed stored)
  | u123456, stored | u12345678, stored => UInt64.ofNat stored
  | f1234, stored => SinglePrecision.mk (UInt32.ofNat stored)
  | f12345678, stored => DoublePrecision.mk (UInt64.ofNat stored)

/-- What a word keeps of a number: all of it, but for the high bits of one that has more bytes in a
register than in the buffer. -/
def kept : (form : NumberForm) → form.Number → form.Number
  | u123456, number => UInt64.ofNat (UInt64.toNat number % 2 ^ 48)
  | _, number => number

variable (form : NumberForm)

/-- The bytes that are written for a number. -/
def spelled (number : form.Number) : Bytes :=
  (form.word.order.spell form.registerWidth (form.stored number)).drop
    (form.registerWidth - form.word.width)

/-- Writes a number at an offset. -/
def put (offset : Nat) (number : form.Number) : BufferStep Unit :=
  BufferStep.storeWord form.word offset (form.spelled number)

/-- The bytes of a word: those of one of eight bytes at once, and those of a smaller one one by one.
-/
def gather (buffer : Bytes) (offset : Nat) : Except Breach Bytes :=
  match form with
  | u12345678 | f12345678 => do
    Breach.overflow.ensure (offset + form.word.width < sizeBound)
    buffer.checkedBetween offset (offset + form.word.width)
  | _ => buffer.checkedRun offset form.word.width

/-- Reads the number at an offset. -/
def get (buffer : Bytes) (offset : Nat) : Except Breach form.Number := do
  let run ← form.gather buffer offset
  let register := List.replicate (form.registerWidth - form.word.width) 0 ++ run
  return form.ofStored (form.word.order.value register)

variable {form}

/-! ### Numbers and words -/

/-- The bytes that are written are those of the word. -/
theorem spelled_eq (number : form.Number) :
    form.spelled number = form.word.order.spell form.word.width (form.stored number) := by
  cases form
  case u123456 => exact ByteOrder.drop_spell_mostFirst 2 6 _
  all_goals rfl

/-- A number is read from its register as from its word. -/
theorem value_register (form : NumberForm) (run : Bytes) :
    form.word.order.value
        (List.replicate (form.registerWidth - form.word.width) 0 ++ run) =
      form.word.order.value run := by
  cases form
  case u123456 => exact ByteOrder.value_mostFirst_zeros 2 run
  all_goals rfl

/-- The word of a number stands for what it keeps of it. -/
theorem ofStored_stored (number : form.Number) :
    form.ofStored (form.stored number % 256 ^ form.word.width) = form.kept number := by
  cases form
  case u12 | u21 => exact ofNat_word16 number
  case u1234 | u4321 => exact ofNat_word32 number
  case i1234 => exact ofInt_word32 number
  case u123456 => rfl
  case u12345678 => exact ofNat_word64 number
  case f1234 => exact congrArg SinglePrecision.mk (ofNat_word32 _)
  case f12345678 => exact congrArg DoublePrecision.mk (ofNat_word64 _)

/-- A word is the one of the number that it stands for. -/
theorem stored_ofStored {stored : Nat} (inRange : stored < 256 ^ form.word.width) :
    form.stored (form.ofStored stored) = stored := by
  cases form
  case u12 | u21 => exact UInt16.toNat_ofNat_of_lt' inRange
  case u1234 | u4321 | f1234 => exact UInt32.toNat_ofNat_of_lt' inRange
  case u12345678 | f12345678 => exact UInt64.toNat_ofNat_of_lt' inRange
  case u123456 => exact UInt64.toNat_ofNat_of_lt' (Nat.lt_trans inRange (by decide))
  case i1234 => exact ofSigned_word32 inRange

/-! ### Reading and writing -/

variable {buffer after : Bytes} {offset : Nat}

/-- A number is written where there is room for its word. -/
theorem put_fits (short : buffer.length < bufferBound) {number : form.Number}
    (done : form.word.write? buffer offset (form.stored number) = some after) :
    (form.put offset number).outcome buffer = (.ok (), after) := by
  rw [put, spelled_eq]
  exact BufferStep.storeWord_fits short done

/-- Where there is no room for it, the buffer stays as it is. -/
theorem put_misfit (short : buffer.length < offset + form.word.width) (number : form.Number) :
    ∃ breach, (form.put offset number).outcome buffer = (.error breach, buffer) :=
  BufferStep.storeWord_misfit short _

theorem gather_fits (short : buffer.length < bufferBound)
    (fits : offset + form.word.width ≤ buffer.length) :
    form.gather buffer offset = .ok (buffer.between offset (offset + form.word.width)) := by
  have bounds : bufferBound < sizeBound := by decide
  have countable : offset + form.word.width < sizeBound := by omega
  unfold gather
  split
  case h_3 => exact Bytes.checkedRun_eq countable fits
  all_goals
    rw [Breach.ensure_bind countable]
    exact Bytes.checkedBetween_eq (Nat.le_add_right _ _) fits

theorem gather_misfit (short : buffer.length < offset + form.word.width) :
    ∃ breach, form.gather buffer offset = .error breach := by
  have some : 0 < form.word.width := by cases form <;> decide
  by_cases countable : offset + form.word.width < sizeBound
  · unfold gather
    split
    case h_3 => exact Bytes.checkedRun_misfit some short
    all_goals
      rw [Breach.ensure_bind countable]
      exact ⟨_, Breach.ensure_bind_of_not (fun inside => absurd inside.2 (Nat.not_le.mpr short)) _⟩
  · unfold gather
    split
    case h_3 => exact Bytes.checkedRun_misfit some short
    all_goals exact ⟨_, Breach.ensure_bind_of_not countable _⟩

/-- A number is read where its word is. -/
theorem get_fits (short : buffer.length < bufferBound) {stored : Nat}
    (found : form.word.read? buffer offset = some stored) :
    form.get buffer offset = .ok (form.ofStored stored) := by
  have fits := (form.word.isSome_read? buffer offset).mp (by rw [found]; rfl)
  rw [Word.read?, Bytes.slice?_eq_between fits, Option.map_some] at found
  rw [get, bind_of_ok (gather_fits short fits)]
  show Except.ok (form.ofStored _) = _
  rw [value_register, Option.some.inj found]

theorem get_misfit (short : buffer.length < offset + form.word.width) :
    ∃ breach, form.get buffer offset = .error breach := by
  obtain ⟨breach, failed⟩ := gather_misfit short
  rw [get, failed]
  exact ⟨breach, rfl⟩

/-- How a number is written and read at an offset of a buffer, in place and in the words of a buffer
alike. -/
structure Accesses (form : NumberForm) (buffer : Bytes) (offset : Nat) : Prop where
  /-- Every number can be written; it is read again as far as it is kept, the bytes beside it and
  the length of the buffer stay, and a second write leaves nothing of it. -/
  written (number : form.Number) : ∃ after,
    form.word.write? buffer offset (form.stored number) = some after ∧
      (form.put offset number).outcome buffer = (.ok (), after) ∧
      form.get after offset = .ok (form.kept number) ∧
      after.length = buffer.length ∧
      (∀ place, place < offset ∨ offset + form.word.width ≤ place →
        after[place]? = buffer[place]?) ∧
      ∀ again : form.Number,
        (form.put offset again).outcome after = (form.put offset again).outcome buffer
  /-- A number is read, and leaves no trace when it is written back. -/
  read : ∃ stored,
    form.word.read? buffer offset = some stored ∧
      form.get buffer offset = .ok (form.ofStored stored) ∧
      (form.put offset (form.ofStored stored)).outcome buffer = (.ok (), buffer)

/-- Nothing is read or written at an offset of a buffer, neither in place nor in the words of a
buffer. -/
structure Refuses (form : NumberForm) (buffer : Bytes) (offset : Nat) : Prop where
  written (number : form.Number) : form.word.write? buffer offset (form.stored number) = none ∧
    ∃ breach, (form.put offset number).outcome buffer = (.error breach, buffer)
  read : form.word.read? buffer offset = none ∧ ∃ breach, form.get buffer offset = .error breach

theorem accesses_of_fits (short : buffer.length < bufferBound)
    (fits : offset + form.word.width ≤ buffer.length) : form.Accesses buffer offset where
  written number := by
    obtain ⟨after, done⟩ := form.word.exists_write? (form.stored number) fits
    have length := Bytes.length_overwrite? done
    have shortAfter : after.length < bufferBound := length ▸ short
    refine ⟨after, done, put_fits short done, ?_, length, fun place outside => ?_,
      fun again => ?_⟩
    · rw [get_fits shortAfter (Word.read?_write? done), ofStored_stored]
    · refine Bytes.getElem?_overwrite?_of_outside done ?_
      rw [ByteOrder.length_spell]
      exact outside
    · obtain ⟨last, doneLast⟩ := form.word.exists_write? (form.stored again) fits
      have doneAgain := (Word.write?_write? done (form.stored again)).trans doneLast
      rw [put_fits shortAfter doneAgain, put_fits short doneLast]
  read := by
    obtain ⟨stored, found⟩ := form.word.exists_read? buffer offset fits
    refine ⟨stored, found, get_fits short found, put_fits short ?_⟩
    rw [stored_ofStored (Word.read?_lt found)]
    exact Word.write?_read? found

theorem refuses_of_misfit (misfit : buffer.length < offset + form.word.width) :
    form.Refuses buffer offset where
  written number := ⟨Word.write?_misfit misfit _, put_misfit misfit number⟩
  read := ⟨Word.read?_misfit misfit, get_misfit misfit⟩

/-- Two writes to places that do not meet can be made the other way round. -/
theorem put_comm {other : NumberForm} {start : Nat} (short : buffer.length < bufferBound)
    (fits : offset + form.word.width ≤ buffer.length)
    (otherFits : start + other.word.width ≤ buffer.length)
    (apart : offset + form.word.width ≤ start ∨ start + other.word.width ≤ offset)
    (number : form.Number) (otherNumber : other.Number) :
    (do form.put offset number; other.put start otherNumber : BufferStep Unit).outcome buffer =
      (do other.put start otherNumber; form.put offset number : BufferStep Unit).outcome
        buffer := by
  obtain ⟨first, writeFirst⟩ := form.word.exists_write? (form.stored number) fits
  have length := Bytes.length_overwrite? writeFirst
  obtain ⟨both, writeBoth⟩ := other.word.exists_write? (other.stored otherNumber)
    (show start + other.word.width ≤ first.length by rw [length]; exact otherFits)
  obtain ⟨second, writeSecond, writeSwapped⟩ := Bytes.overwrite?_swap
    (by rw [ByteOrder.length_spell, ByteOrder.length_spell]; exact apart) writeFirst writeBoth
  have shortFirst : first.length < bufferBound := length ▸ short
  have shortSecond : second.length < bufferBound := Bytes.length_overwrite? writeSecond ▸ short
  rw [BufferStep.outcome_bind_ok (put_fits short writeFirst), put_fits shortFirst writeBoth,
    BufferStep.outcome_bind_ok (put_fits short writeSecond), put_fits shortSecond writeSwapped]

/-- **A number is read and written at its place and nowhere else.** Where there is room for its word
it can be written and read (`Accesses`), and another one can be written beside it before or after
it. Where there is no room, reading and writing end with a breach and leave the buffer as it is
(`Refuses`). -/
theorem accesses (form : NumberForm) {buffer : Bytes} (short : buffer.length < bufferBound)
    (offset : Nat) :
    (offset + form.word.width ≤ buffer.length →
      form.Accesses buffer offset ∧
        ∀ (other : NumberForm) (start : Nat), start + other.word.width ≤ buffer.length →
          offset + form.word.width ≤ start ∨ start + other.word.width ≤ offset →
          ∀ (number : form.Number) (otherNumber : other.Number),
            (do form.put offset number; other.put start otherNumber : BufferStep Unit).outcome
                buffer =
              (do other.put start otherNumber; form.put offset number : BufferStep Unit).outcome
                buffer) ∧
      (buffer.length < offset + form.word.width → form.Refuses buffer offset) := by
  refine ⟨fun fits => ⟨accesses_of_fits short fits, fun other start otherFits apart => ?_⟩,
    refuses_of_misfit⟩
  exact put_comm short fits otherFits apart

/-- A word of two bytes, one of six behind it, and two bytes that belong to neither. -/
def sharedBuffer : Bytes :=
  [1, 2, 3, 4, 5, 6, 7, 8, 9, 10]

/-- In it the word of six bytes is read and written beside the other one, and no word of six bytes
begins at its sixth byte. -/
theorem accesses_sharedBuffer :
    sharedBuffer.length < bufferBound ∧ u123456.Accesses sharedBuffer 2 ∧
      (∀ (number : u123456.Number) (otherNumber : u21.Number),
        (do u123456.put 2 number; u21.put 0 otherNumber : BufferStep Unit).outcome sharedBuffer =
          (do u21.put 0 otherNumber; u123456.put 2 number : BufferStep Unit).outcome
            sharedBuffer) ∧
      u123456.Refuses sharedBuffer 5 := by
  have short : sharedBuffer.length < bufferBound := by decide
  obtain ⟨reads, beside⟩ := (accesses u123456 short 2).1 (by decide)
  have refuses := (accesses u123456 short 5).2 (by decide)
  exact ⟨short, reads, beside u21 0 (by decide) (Or.inr (by decide)), refuses⟩

end NumberForm

end Downlink
