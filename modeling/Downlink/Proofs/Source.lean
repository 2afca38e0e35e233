/-
**Reading from a source.**

A source delivers its bytes in pieces, and the cuts between the pieces fall anywhere. A reader that
asks for a number of bytes does not see them:

* `Source.readExact_of_le`: it gets just so many of the bytes that are left, if there are enough;
* `Source.readExact_of_lt`: else it gets the ending of the source.
-/

import Downlink.Source
import Downlink.Error

namespace Downlink

/-- What the ending of a source is to those who read items from it: nothing when there are no more
bytes, and the failure, once, when reading on fails. -/
def Ending.reports {Item : Type} : Ending → List (Except Error Item)
  | .complete => []
  | .failed reason => [.error (.io reason)]

theorem Ending.length_reports_le (Item : Type) (ending : Ending) :
    (ending.reports : List (Except Error Item)).length ≤ 1 := by
  cases ending with
  | complete => exact Nat.zero_le _
  | failed reason => exact Nat.le_refl _

namespace Source

/-- The bytes that are left, however they are cut. -/
def bytes (source : Source) : Bytes :=
  source.pieces.flatten

/-! ### Bytes over several pieces -/

/-- Where there are enough bytes, the first of them are taken and the others left. -/
theorem gather?_of_le {count : Nat} {pieces : List Bytes}
    (enough : count ≤ pieces.flatten.length) :
    ∃ left, gather? count pieces = some (pieces.flatten.take count, left) ∧
      left.flatten = pieces.flatten.drop count := by
  induction pieces generalizing count with
  | nil =>
    obtain rfl : count = 0 := Nat.le_zero.mp enough
    exact ⟨[], rfl, rfl⟩
  | cons piece pieces ih =>
    cases count with
    | zero => exact ⟨piece :: pieces, rfl, rfl⟩
    | succ count =>
      rw [List.flatten_cons, List.length_append] at enough
      rw [gather?, List.flatten_cons]
      by_cases inside : count + 1 < piece.length
      · refine ⟨piece.drop (count + 1) :: pieces, ?_, ?_⟩
        · rw [if_pos inside, List.take_append_of_le_length (Nat.le_of_lt inside)]
        · rw [List.flatten_cons, List.drop_append_of_le_length (Nat.le_of_lt inside)]
      · have covered : piece.length ≤ count + 1 := Nat.not_lt.mp inside
        have missing : count + 1 - piece.length ≤ pieces.flatten.length := by omega
        obtain ⟨left, gathered, others⟩ := ih missing
        refine ⟨left, ?_, ?_⟩
        · rw [if_neg inside, gathered, List.take_append, List.take_of_length_le covered]
          rfl
        · rw [others, List.drop_append, List.drop_of_length_le covered, List.nil_append]

/-- Where there are too few bytes, none are taken. -/
theorem gather?_of_lt {count : Nat} {pieces : List Bytes}
    (short : pieces.flatten.length < count) : gather? count pieces = none := by
  induction pieces generalizing count with
  | nil =>
    cases count with
    | zero => simp at short
    | succ count => rfl
  | cons piece pieces ih =>
    rw [List.flatten_cons, List.length_append] at short
    cases count with
    | zero => simp at short
    | succ count =>
      rw [gather?, if_neg (by omega), ih (by omega)]
      rfl

/-! ### Reads -/

variable (source : Source) {count : Nat}

/-- A read gets the next bytes, if there are enough. -/
theorem readExact_of_le (enough : count ≤ source.bytes.length) :
    ∃ later, source.readExact count = .ok (source.bytes.take count, later) ∧
      later.bytes = source.bytes.drop count ∧ later.ending = source.ending := by
  obtain ⟨left, gathered, others⟩ := gather?_of_le enough
  refine ⟨{ source with pieces := left }, ?_, others, rfl⟩
  rw [readExact, gathered]
  rfl

/-- A read of more bytes than there are gets the ending of the source. -/
theorem readExact_of_lt (short : source.bytes.length < count) :
    source.readExact count = .error source.ending := by
  rw [readExact, gather?_of_lt short]

end Source

end Downlink
