/-
**A view and the copy made of it.**

The buffer of a view may go on behind the packet; the copy ends with it. Nearly all that is asked of
a view lies in the primary header, which the copy has, too. The secondary header may lie behind the
end of the packet: a length field below five leaves no room for it, whatever the flag says, and then
the time of the view is read from bytes that do not belong to the packet.

* `PacketView.exists_copy`: the copy can be viewed, with the same header;
* `PacketView.time42_copy`: the time of the copy;
* `PacketFilter.accepts_eq_iff` and `Summary.add_eq_iff`: what filters and summaries see of a view
  besides its header and its bytes is its time;
* `PacketView.copy_agrees`: so a view and its copy are the same to all of them exactly when the time
  lies inside the packet, or is 0.
-/

import Downlink.Packet.Filter
import Downlink.Packet.Summary
import Downlink.Proofs.Packet.Header

namespace Downlink

/-! ### What is seen of a time -/

section Seen

variable {view other : PacketView}

/-- The time that an empty count keeps of its first packet. -/
theorem ApidSummary.firstTime42_add (view : PacketView) :
    ((({} : ApidSummary).add view 0).firstTime42).getD 0 = view.time42 := by
  show (if view.time42 = 0 then none else some view.time42).getD 0 = view.time42
  split
  case isTrue none => exact none.symm
  case isFalse => rfl

/-- **Filters tell two views with one header apart exactly by their times.** -/
theorem PacketFilter.accepts_eq_iff (header : view.header = other.header) :
    (∀ filter : PacketFilter, filter.accepts view = filter.accepts other) ↔
      view.time42 = other.time42 := by
  constructor
  · intro same
    -- the filter that lets nothing but the time of the one pass
    have exactly := same { start := other.time42, stop := other.time42 }
    simp only [accepts, Bool.and_true, Nat.le_refl, decide_true, Bool.and_eq_true,
      decide_eq_true_eq] at exactly
    exact Nat.le_antisymm exactly.2 exactly.1
  · intro same filter
    rw [accepts, accepts, same, header]

/-- **Summaries tell two views with one header and the same bytes apart exactly by their times.** -/
theorem Summary.add_eq_iff (header : view.header = other.header) (data : view.data = other.data) :
    (∀ summary : Summary, summary.add view = summary.add other) ↔ view.time42 = other.time42 := by
  constructor
  · intro same
    have first := congrArg apids (Except.ok.inj (same {}))
    have entry := (Prod.mk.inj (List.cons.inj first).1).2
    rw [← ApidSummary.firstTime42_add view, ← ApidSummary.firstTime42_add other]
    exact congrArg (fun entry => entry.firstTime42.getD 0) entry
  · intro same summary
    have added (entry : ApidSummary) (missing : Nat) :
        entry.add view missing = entry.add other missing := by
      rw [ApidSummary.add, ApidSummary.add, same, header, data]
    rw [add, add, header, data]
    simp only [added]

end Seen

namespace PacketView

/-! ### The copy -/

/-- The copy of a view can be viewed, with the same header. -/
theorem exists_copy (view : PacketView) :
    ∃ copy, view.toPacket.view? = some copy ∧ copy.bytes = view.data ∧
      copy.header = view.header := by
  have longer : PacketField.headerLength < view.totalLength :=
    PacketField.headerLength_lt_totalLength? view.totalLength?_bytes
  have decoded : PrimaryHeader.decode? view.data = some view.header :=
    (PrimaryHeader.decode?_take view.bytes (Nat.le_of_lt longer)).trans view.decoded
  exact ⟨⟨view.data, view.header, decoded⟩, of?_eq_some decoded, rfl, rfl⟩

/-- What is the same for a view and its copy. -/
structure Agrees (copy view : PacketView) : Prop where
  header : copy.header = view.header
  data : copy.data = view.data
  isComplete : copy.isComplete = view.isComplete
  streamId : PacketField.streamId? copy.bytes = PacketField.streamId? view.bytes
  apid : PacketField.apid? copy.bytes = PacketField.apid? view.bytes
  sequenceCount : PacketField.sequenceCount? copy.bytes = PacketField.sequenceCount? view.bytes
  lengthField : PacketField.lengthField? copy.bytes = PacketField.lengthField? view.bytes
  totalLength : PacketField.totalLength? copy.bytes = PacketField.totalLength? view.bytes
  hasSecondaryHeader :
    PacketField.hasSecondaryHeader? copy.bytes = PacketField.hasSecondaryHeader? view.bytes

section Copy

variable {view copy : PacketView} (bytes : copy.bytes = view.data)
  (header : copy.header = view.header)
include bytes header

theorem agrees_copy : copy.Agrees view := by
  have total : copy.totalLength = view.totalLength := congrArg PrimaryHeader.totalLength header
  have ofCopy := PrimaryHeader.readOff_of_decode? copy.decoded
  have ofView := PrimaryHeader.readOff_of_decode? view.decoded
  rw [header] at ofCopy
  refine ⟨header, ?_, ?_, ofCopy.streamId.trans ofView.streamId.symm,
    ofCopy.apid.trans ofView.apid.symm, ofCopy.sequenceCount.trans ofView.sequenceCount.symm,
    ofCopy.lengthField.trans ofView.lengthField.symm,
    ofCopy.totalLength.trans ofView.totalLength.symm,
    ofCopy.hasSecondaryHeader.trans ofView.hasSecondaryHeader.symm⟩
  · rw [data, bytes, total, data, List.take_take, Nat.min_self]
  · have covers : view.totalLength ≤ view.data.length ↔ view.totalLength ≤ view.bytes.length := by
      rw [data, List.length_take]
      omega
    rw [isComplete, isComplete, bytes, total]
    exact decide_eq_decide.mpr covers

/-- **The time of the copy** is that of the view if it lies inside the packet, and 0 otherwise. -/
theorem time42_copy :
    copy.time42 = if view.totalLength < PacketField.headerLength + PacketField.timeLength then 0
      else view.time42 := by
  cases flag : view.header.hasSecondaryHeader with
  | false =>
    have ofView := PrimaryHeader.time42?_of_clear view.decoded flag
    have ofCopy := PrimaryHeader.time42?_of_clear copy.decoded (header ▸ flag)
    rw [time42, ofCopy, time42, ofView]
    exact (ite_self _).symm
  | true =>
    have ofView := PrimaryHeader.time42?_of_set view.decoded flag
    have ofCopy := PrimaryHeader.time42?_of_set copy.decoded (header ▸ flag)
    rw [time42, ofCopy, bytes, time42, ofView, PacketField.timeBytes?, PacketField.timeBytes?]
    split
    case isTrue short =>
      have beyond : view.data.length < PacketField.headerLength + Word.u123456.width := by
        rw [data, List.length_take]
        exact Nat.lt_of_le_of_lt (Nat.min_le_left _ _) short
      rw [Word.read?, Bytes.slice?_eq_none beyond]
      rfl
    case isFalse covers => rw [data, Word.u123456.read?_take _ (Nat.not_lt.mp covers)]

theorem time42_copy_eq_iff :
    copy.time42 = view.time42 ↔
      PacketField.headerLength + PacketField.timeLength ≤ view.totalLength ∨ view.time42 = 0 := by
  rw [time42_copy bytes header]
  split
  case isTrue short =>
    have beyond := Nat.not_le.mpr short
    exact ⟨fun none => .inr none.symm, fun either => (either.resolve_left beyond).symm⟩
  case isFalse covers => exact ⟨fun _ => .inl (Nat.not_lt.mp covers), fun _ => rfl⟩

end Copy

/-! ### All that is asked of a view -/

/-- **A view and its copy agree, but for times that lie behind the packet.** Any buffer with a
primary header can be viewed, and so can the copy made of it. The two have the same header, fields,
bytes, and completeness. The copy has the time of the view if the declared length covers it, and
otherwise 0; so the times are the same exactly when it does or the view has no time. And this is
exactly when all filters keep both or neither, and when all summaries count both in the same way. -/
theorem copy_agrees (bytes : Bytes) (room : 6 ≤ bytes.length) :
    ∃ view copy, of? bytes = some view ∧ view.toPacket.view? = some copy ∧ copy.Agrees view ∧
      copy.time42 = (if view.totalLength < 12 then 0 else view.time42) ∧
      (copy.time42 = view.time42 ↔ 12 ≤ view.totalLength ∨ view.time42 = 0) ∧
      ((∀ filter : PacketFilter, filter.accepts copy = filter.accepts view) ↔
        copy.time42 = view.time42) ∧
      ((∀ summary : Summary, summary.add copy = summary.add view) ↔
        copy.time42 = view.time42) := by
  obtain ⟨head, decoded⟩ :=
    Option.isSome_iff_exists.mp ((PrimaryHeader.isSome_decode? bytes).mpr room)
  obtain ⟨copy, viewed, copied, header⟩ := exists_copy ⟨bytes, head, decoded⟩
  have agrees := agrees_copy copied header
  exact ⟨⟨bytes, head, decoded⟩, copy, of?_eq_some decoded, viewed, agrees,
    time42_copy copied header, time42_copy_eq_iff copied header,
    PacketFilter.accepts_eq_iff header, Summary.add_eq_iff header agrees.data⟩

/-- A packet of 14 bytes with a secondary header, and two bytes that are left of an earlier one. -/
def reusedBuffer : Bytes :=
  [13, 89, 210, 171, 0, 7, 82, 192, 0, 0, 0, 167, 219, 255, 238, 238]

theorem copy_agrees_reusedBuffer :
    ∃ view copy, of? reusedBuffer = some view ∧ view.toPacket.view? = some copy ∧
      copy.Agrees view ∧ copy.time42 = view.time42 ∧
      (∀ filter : PacketFilter, filter.accepts copy = filter.accepts view) ∧
      ∀ summary : Summary, summary.add copy = summary.add view := by
  obtain ⟨view, copy, viewed, copied, agrees, _, sameTime, filters, summaries⟩ :=
    copy_agrees reusedBuffer (by decide)
  have covered : 12 ≤ view.totalLength := by
    obtain rfl : _ = view := Option.some.inj viewed
    decide
  have same := sameTime.mpr (.inl covered)
  exact ⟨view, copy, viewed, copied, agrees, same, filters.mpr same, summaries.mpr same⟩

/-- A packet of seven bytes that says that it has a secondary header, and five bytes behind it. -/
def overhangingBuffer : Bytes :=
  [8, 1, 192, 0, 0, 0, 1, 2, 3, 4, 5, 6]

/-- A view that reads a time from behind its packet and its copy are not the same. -/
theorem copy_disagrees_overhangingBuffer :
    ∃ view copy, of? overhangingBuffer = some view ∧ view.toPacket.view? = some copy ∧
      view.time42 = 0x010203040506 ∧ copy.time42 = 0 ∧
      PacketFilter.accepts { start := 1 } view = true ∧
      PacketFilter.accepts { start := 1 } copy = false ∧
      Summary.add {} copy ≠ Summary.add {} view := by
  refine ⟨⟨overhangingBuffer, _, rfl⟩, ⟨overhangingBuffer.take 7, _, rfl⟩, rfl, rfl, rfl, rfl, rfl,
    rfl, ?_⟩
  intro same
  exact absurd (Except.ok.inj same) (by decide)

end PacketView

end Downlink
