/-
**Buffers.**

A telemetry buffer is a list of bytes. Two operations touch a run of bytes at an offset, and both
answer nothing when the run does not lie inside the buffer:

* `Bytes.slice?`: the run itself;
* `Bytes.overwrite?`: the buffer with another run of the same length in its place.

An overwrite keeps the length (`length_overwrite?`) and is read back by a slice
(`slice?_overwrite?`).
-/

namespace Downlink

/-- A telemetry buffer, first byte first. -/
abbrev Bytes := List UInt8

/-- Offsets, lengths and counts are 64-bit: a sum that reaches this bound is not representable. -/
def sizeBound : Nat := 1 <<< 64

/-- A buffer in memory is shorter than this, half of what a length can count. -/
def bufferBound : Nat := 1 <<< 63

namespace Bytes

/-- The `width` bytes at `offset`, if the buffer holds them all. -/
def slice? (bytes : Bytes) (offset width : Nat) : Option Bytes :=
  if offset + width ≤ bytes.length then some ((bytes.drop offset).take width) else none

/-- The buffer with `patch` written over the bytes at `offset`, if it fits there. -/
def overwrite? (bytes : Bytes) (offset : Nat) (patch : Bytes) : Option Bytes :=
  if offset + patch.length ≤ bytes.length then
    some (bytes.take offset ++ patch ++ bytes.drop (offset + patch.length))
  else none

/-- A slice is as wide as asked for. -/
theorem length_slice? {bytes run : Bytes} {offset width : Nat}
    (found : bytes.slice? offset width = some run) : run.length = width := by
  unfold slice? at found
  split at found
  · obtain rfl := Option.some.inj found
    simp only [List.length_take, List.length_drop]
    omega
  · simp at found

/-- An overwrite keeps the length of the buffer. -/
theorem length_overwrite? {bytes patch written : Bytes} {offset : Nat}
    (done : bytes.overwrite? offset patch = some written) : written.length = bytes.length := by
  unfold overwrite? at done
  split at done
  · obtain rfl := Option.some.inj done
    simp only [List.length_append, List.length_take, List.length_drop]
    omega
  · simp at done

/-- What was written is what is read at the same place. -/
theorem slice?_overwrite? {bytes patch written : Bytes} {offset : Nat}
    (done : bytes.overwrite? offset patch = some written) :
    written.slice? offset patch.length = some patch := by
  have same := length_overwrite? done
  unfold overwrite? at done
  split at done
  case isTrue fits =>
    obtain rfl := Option.some.inj done
    have front : (bytes.take offset).length = offset := by simp; omega
    rw [slice?, if_pos (by rw [same]; exact fits)]
    rw [List.append_assoc, List.drop_append, front, Nat.sub_self, List.drop_zero]
    simp
  case isFalse => simp at done

end Bytes

end Downlink
