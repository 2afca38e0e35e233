/-
**Words written in place.**

A buffer in memory is not put together anew: a word is written over the bytes that stand in its
place, one after another, after a check that all of them are there. A step on a buffer
(`BufferStep`) has an answer or ends with a breach, and leaves the buffer as it is by then:

* `BufferStep.outcome_storeRun`: bytes that fit are stored one by one as a whole run of them is;
* `BufferStep.storeWord_fits`, `BufferStep.storeWord_misfit`: a word is written where it fits, and
  elsewhere nothing is touched;
* `Word.read?_misfit`, `Word.write?_misfit`: there is no word where there is no room for one;
* `Word.write?_write?` and `Word.write?_read?`: of two writes to the same place the last one counts,
  and a word that was read is written back without a trace;
* `Bytes.checkedRun_misfit`: bytes that are not there cannot be read.
-/

import Downlink.Proofs.Point.Checked
import Downlink.Proofs.Word

namespace Downlink

/-! ### The same place -/

namespace Bytes

variable {bytes patch other written : Bytes} {offset : Nat}

/-- A buffer is cut in front of a run that it has room for. -/
theorem exists_front (fits : offset ≤ bytes.length) :
    ∃ front rest, bytes = front ++ rest ∧ front.length = offset :=
  ⟨bytes.take offset, bytes.drop offset, (List.take_append_drop _ _).symm,
    List.length_take_of_le fits⟩

/-- Of two writes of as many bytes to the same place, the last one counts. -/
theorem overwrite?_overwrite? (same : patch.length = other.length)
    (done : bytes.overwrite? offset patch = some written) :
    written.overwrite? offset other = bytes.overwrite? offset other := by
  have fits := fits_of_overwrite? done
  obtain ⟨front, rest, rfl, rfl⟩ := exists_front (show offset ≤ bytes.length by omega)
  rw [List.length_append] at fits
  have room : patch.length ≤ rest.length := by omega
  rw [overwrite?_front front patch room] at done
  obtain rfl := Option.some.inj done
  have roomAgain : other.length ≤ (patch ++ rest.drop patch.length).length := by
    rw [List.length_append]
    omega
  rw [List.append_assoc, overwrite?_front front other roomAgain,
    overwrite?_front front other (same ▸ room), ← same, List.drop_left]

/-- A run is written by its first byte and then the others. -/
theorem overwrite?_cons {byte : UInt8} {run : Bytes}
    (fits : offset + (byte :: run).length ≤ bytes.length) :
    Bytes.overwrite? (bytes.set offset byte) (offset + 1) run =
      bytes.overwrite? offset (byte :: run) := by
  rw [List.length_cons] at fits
  obtain ⟨front, rest, rfl, rfl⟩ := exists_front (show offset ≤ bytes.length by omega)
  rw [List.length_append] at fits
  cases rest with
  | nil => exact absurd fits (by rw [List.length_nil]; omega)
  | cons old rest =>
    rw [List.length_cons] at fits
    have set : (front ++ old :: rest).set front.length byte = (front ++ [byte]) ++ rest := by
      rw [List.set_append_right _ _ (Nat.le_refl _), Nat.sub_self, List.set_cons_zero,
        List.append_assoc]
      rfl
    have place : front.length + 1 = (front ++ [byte]).length := by
      rw [List.length_append]
      rfl
    rw [set, place, overwrite?_front _ run (by omega),
      overwrite?_front front (byte :: run) (by rw [List.length_cons, List.length_cons]; omega),
      List.append_assoc front, List.length_cons, List.drop_succ_cons]
    rfl

/-- Bytes that the buffer does not hold cannot be taken one by one. -/
theorem checkedRun_misfit {width : Nat} (some : 0 < width) (short : bytes.length < offset + width) :
    ∃ breach, bytes.checkedRun offset width = .error breach := by
  induction width generalizing offset with
  | zero => exact absurd some (Nat.lt_irrefl 0)
  | succ width ih =>
    rw [checkedRun]
    by_cases countable : offset < sizeBound
    case neg => exact ⟨_, Breach.ensure_bind_of_not countable _⟩
    rw [Breach.ensure_bind countable]
    by_cases here : offset < bytes.length
    · obtain ⟨breach, rest⟩ := ih (show 0 < width by omega) (show _ < offset + 1 + width by omega)
      rw [Breach.ensureSome_bind (List.getElem?_eq_getElem here), rest]
      exact ⟨breach, rfl⟩
    · rw [List.getElem?_eq_none (Nat.not_lt.mp here)]
      exact ⟨_, rfl⟩

end Bytes

namespace Word

variable {word : Word} {bytes written : Bytes} {offset number : Nat}

/-- Of two writes of a word to the same place, the last one counts. -/
theorem write?_write? (done : word.write? bytes offset number = some written) (again : Nat) :
    word.write? written offset again = word.write? bytes offset again := by
  refine Bytes.overwrite?_overwrite? ?_ done
  rw [ByteOrder.length_spell, ByteOrder.length_spell]

/-- There is no word where there is no room for one. -/
theorem read?_misfit (misfit : bytes.length < offset + word.width) :
    word.read? bytes offset = none := by
  refine Option.not_isSome_iff_eq_none.mp fun found => ?_
  exact Nat.not_le.mpr misfit ((word.isSome_read? bytes offset).mp found)

theorem write?_misfit (misfit : bytes.length < offset + word.width) (number : Nat) :
    word.write? bytes offset number = none := by
  rw [write?, Bytes.overwrite?, ByteOrder.length_spell, if_neg (Nat.not_le.mpr misfit)]

/-- A word that was read is written back without a trace. -/
theorem write?_read? (found : word.read? bytes offset = some number) :
    word.write? bytes offset number = some bytes := by
  have fits := (word.isSome_read? bytes offset).mp (by rw [found]; rfl)
  have spelled := take_of_read? found
  obtain ⟨front, rest, rfl, rfl⟩ := Bytes.exists_front (show offset ≤ bytes.length by omega)
  rw [List.length_append] at fits
  rw [List.drop_left] at spelled
  rw [write?, ← spelled, Bytes.overwrite?_front _ _ (List.length_take_le' _ _),
    List.length_take_of_le (by omega), List.append_assoc, List.take_append_drop]

end Word

/-! ### Steps on a buffer -/

/-- A step on a buffer that is changed in place. A breach ends it, and what was done to the buffer
before stays done. -/
abbrev BufferStep (α : Type) :=
  ExceptT Breach (StateM Bytes) α

namespace BufferStep

variable {α β : Type} {step : BufferStep α} {next : α → BufferStep β} {buffer after : Bytes}

/-- What a step answers, and the buffer as it stands then. -/
def outcome (step : BufferStep α) (buffer : Bytes) : Except Breach α × Bytes :=
  step.run.run buffer

/-- Goes on only where a condition holds, without touching the buffer. -/
def check (breach : Breach) (condition : Prop) [Decidable condition] : BufferStep Unit :=
  ExceptT.mk (pure (breach.ensure condition))

theorem outcome_bind (step : BufferStep α) (next : α → BufferStep β) (buffer : Bytes) :
    (step >>= next).outcome buffer =
      match step.outcome buffer with
      | (.ok value, after) => (next value).outcome after
      | (.error breach, after) => (.error breach, after) := by
  show (let reached := step.outcome buffer
    ExceptT.bindCont next reached.1 reached.2) = _
  rcases step.outcome buffer with ⟨breach | value, after⟩
  · rfl
  · rfl

/-- A step goes on where the one before it has an answer. -/
theorem outcome_bind_ok {value : α} (done : step.outcome buffer = (.ok value, after)) :
    (step >>= next).outcome buffer = (next value).outcome after := by
  rw [outcome_bind, done]

/-- A breach ends all steps. -/
theorem outcome_bind_error {breach : Breach}
    (failed : step.outcome buffer = (.error breach, after)) :
    (step >>= next).outcome buffer = (.error breach, after) := by
  rw [outcome_bind, failed]

section Check

variable {breach : Breach} {condition : Prop} [Decidable condition] {next : Unit → BufferStep β}

theorem outcome_check_bind (holds : condition) :
    (check breach condition >>= next).outcome buffer = (next ()).outcome buffer := by
  refine outcome_bind_ok ?_
  show (breach.ensure condition, buffer) = _
  rw [Breach.ensure, if_pos holds]

theorem outcome_check_bind_of_not (fails : ¬ condition) :
    (check breach condition >>= next).outcome buffer = (.error breach, buffer) := by
  refine outcome_bind_error ?_
  show (breach.ensure condition, buffer) = _
  rw [Breach.ensure, if_neg fails]

end Check

/-! ### Writing a word -/

/-- Stores bytes from a place on, one after another. -/
def storeRun : Nat → Bytes → BufferStep Unit
  | _, [] => pure ()
  | offset, byte :: run => do
    modify (List.set · offset byte)
    storeRun (offset + 1) run

/-- Bytes that fit are stored one by one as a whole run of them is. -/
theorem outcome_storeRun {run : Bytes} {offset : Nat}
    (done : buffer.overwrite? offset run = some after) :
    (storeRun offset run).outcome buffer = (.ok (), after) := by
  induction run generalizing offset buffer with
  | nil =>
    rw [Bytes.overwrite?, if_pos (Bytes.fits_of_overwrite? done), List.append_nil, List.length_nil,
      Nat.add_zero, List.take_append_drop] at done
    rw [← Option.some.inj done]
    rfl
  | cons byte run ih =>
    have stored : (modify (List.set · offset byte) : BufferStep PUnit).outcome buffer =
        (.ok (), buffer.set offset byte) := rfl
    rw [storeRun, outcome_bind_ok stored]
    exact ih ((Bytes.overwrite?_cons (Bytes.fits_of_overwrite? done)).trans done)

/-- Writes the bytes of a word at an offset, if there is room for as many as the word has. -/
def storeWord (word : Word) (offset : Nat) (spelled : Bytes) : BufferStep Unit := do
  check .overflow (offset + word.width < sizeBound)
  let buffer ← get
  check .outOfBounds (offset + word.width ≤ buffer.length)
  storeRun offset spelled

theorem outcome_get_bind {next : Bytes → BufferStep β} :
    ((get : BufferStep Bytes) >>= next).outcome buffer = (next buffer).outcome buffer :=
  outcome_bind_ok rfl

variable {word : Word} {offset : Nat}

/-- A word is written where there is room for it. -/
theorem storeWord_fits {number : Nat} (short : buffer.length < bufferBound)
    (done : word.write? buffer offset number = some after) :
    (storeWord word offset (word.order.spell word.width number)).outcome buffer =
      (.ok (), after) := by
  have fits := Bytes.fits_of_overwrite? done
  rw [ByteOrder.length_spell] at fits
  have bounds : bufferBound < sizeBound := by decide
  rw [storeWord, outcome_check_bind (by omega), outcome_get_bind, outcome_check_bind fits]
  exact outcome_storeRun done

/-- Where there is no room for a word, nothing is touched. -/
theorem storeWord_misfit (short : buffer.length < offset + word.width) (spelled : Bytes) :
    ∃ breach, (storeWord word offset spelled).outcome buffer = (.error breach, buffer) := by
  by_cases countable : offset + word.width < sizeBound
  · rw [storeWord, outcome_check_bind countable, outcome_get_bind,
      outcome_check_bind_of_not (Nat.not_le.mpr short)]
    exact ⟨_, rfl⟩
  · rw [storeWord, outcome_check_bind_of_not countable]
    exact ⟨_, rfl⟩

end BufferStep

end Downlink
