/-
**Fields of a space packet.**

A packet starts with a primary header of six bytes: version (3 bits), type (1), secondary header
flag (1) and APID (11); sequence flags (2) and sequence count (14); and the number of bytes after
the header, less one (16). If the flag is set, a Time42 code of six bytes follows.

Each function here reads one field of a buffer that should begin with a packet, and answers nothing
when the buffer ends before the bytes it needs.
-/

import Downlink.Word

namespace Downlink.PacketField

/-- The length of the primary header. -/
def headerLength : Nat := 6

/-- The length of the secondary header. -/
def timeLength : Nat := 6

/-- The most bytes a packet can have: its header and 65536 bytes after it. -/
def longestPacket : Nat := headerLength + 65536

/-- The first two bytes as one number. -/
def streamId? (bytes : Bytes) : Option Nat :=
  Word.u12.read? bytes 0

/-- The application process identifier. -/
def apid? (bytes : Bytes) : Option Nat :=
  (streamId? bytes).map (· % 0x800)

/-- The sequence count. -/
def sequenceCount? (bytes : Bytes) : Option Nat :=
  (Word.u12.read? bytes 2).map (· % 0x4000)

/-- The length field: the number of bytes after the primary header, less one. -/
def lengthField? (bytes : Bytes) : Option Nat :=
  Word.u12.read? bytes 4

/-- The length of the whole packet. -/
def totalLength? (bytes : Bytes) : Option Nat :=
  (lengthField? bytes).map (· + headerLength + 1)

/-- A packet is longer than its primary header. -/
theorem headerLength_lt_totalLength? {bytes : Bytes} {total : Nat}
    (declared : totalLength? bytes = some total) : headerLength < total := by
  obtain ⟨field, _, rfl⟩ := Option.map_eq_some_iff.mp declared
  omega

/-- Whether the packet says that it has a secondary header. -/
def hasSecondaryHeader? (bytes : Bytes) : Option Bool :=
  (Word.u1.read? bytes 0).map (· / 8 % 2 == 1)

/-- The six bytes after the primary header as a Time42 code, whatever the flag says. -/
def timeBytes? (bytes : Bytes) : Option Nat :=
  Word.u123456.read? bytes headerLength

/-- The Time42 code of the packet; 0 when it has no secondary header. -/
def time42? (bytes : Bytes) : Option Nat := do
  if ← hasSecondaryHeader? bytes then timeBytes? bytes else some 0

/-- The seconds of the secondary header, without the top bit. -/
def seconds? (bytes : Bytes) : Option Nat :=
  (Word.u1234.read? bytes headerLength).map (· % 0x80000000)

/-- The ticks of the secondary header. -/
def ticks? (bytes : Bytes) : Option Nat :=
  Word.u12.read? bytes (headerLength + 4)

/-- Whether the last `count` bytes of the declared packet are zero, as far as the buffer holds them.
Some ground systems fill a truncated packet with zeros, so this hints at padding. -/
def endsInZeros? (bytes : Bytes) (count : Nat) : Option Bool :=
  (totalLength? bytes).map fun total =>
    let held := min total bytes.length
    ((bytes.take held).drop (held - count)).all (· == 0)

/-! ### Sequence counts -/

/-- The greatest sequence count. -/
def lastSequenceCount : Nat := 16383

/-- How many packets are missing between a sequence count and the one seen before it, in 16-bit
arithmetic; nothing when a step of the calculation leaves its range. -/
def missing? (current last : Nat) : Option Nat :=
  if 0x10000 ≤ last + 1 then none
  else
    let expected := if lastSequenceCount < last + 1 then 0 else last + 1
    if current = expected then some 0
    else if current < last + 1 then
      if 0x10000 ≤ current + lastSequenceCount ∨ current + lastSequenceCount < last then none
      else some (current + lastSequenceCount - last)
    else some (current - last - 1)

end Downlink.PacketField
