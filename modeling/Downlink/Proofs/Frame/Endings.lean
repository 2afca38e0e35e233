/-
**Streams of frames that end.**

A stream of frames ends where its source has too few bytes for another record. Each record takes
its bytes from the source, so this place is reached, unless a record has no bytes. There always are
enough bytes for such a record, and the stream goes on without an end, as long as there were enough
to be skipped before the first one:

* `FrameStream.exists_givesOut`: streams that end, and how many items they have;
* `FrameStream.next_unending`: a stream that does not end after one more record;
* `FrameStream.ends_iff`: so a stream ends exactly when its records are not empty or the source is
  too short for the bytes in front of them;
* `FrameStream.not_ends_emptyLayout`: a stream that does not end.
-/

import Downlink.Proofs.Frame.Records

namespace Downlink.FrameStream

variable {stream : FrameStream}

/-! ### Streams that end -/

/-- Where records are not empty, or the source is too short for the bytes in front of them, a stream
gives out a frame for each whole record and at most one failure. -/
theorem exists_givesOut (isOpen : ¬ stream.finished = true)
    (either : 0 < stream.layout.recordLength ∨
      stream.source.bytes.length < stream.skipped) :
    ∃ items, GivesOut next stream items ∧ items.length ≤
      (stream.source.bytes.length - stream.skipped) / stream.layout.recordLength + 1 := by
  have once := stream.source.ending.length_reports_le Bytes
  rcases either with nonempty | short
  · refine ⟨_, givesOut_frames isOpen nonempty rfl, ?_⟩
    rw [List.length_append, List.length_map, RecordLayout.length_framesFrom]
    omega
  · have ended := stream.readRecord_of_lt (Nat.lt_add_right _ short)
    exact ⟨_, givesOut_short isOpen ended, Nat.le_add_left_of_le once⟩

/-! ### Streams that do not end -/

/-- Records without bytes are still to come, and the bytes in front of them are there. -/
structure Unending (stream : FrameStream) : Prop where
  isOpen : ¬ stream.finished = true
  empty : stream.layout.recordLength = 0
  covered : stream.skipped ≤ stream.source.bytes.length

/-- A stream of empty records has an empty frame, and behind it the stream is as it was before. -/
theorem next_unending (unending : stream.Unending) :
    ∃ later, stream.next = (some (.ok []), later) ∧ later.Unending := by
  have enough : stream.skipped + stream.layout.recordLength ≤ stream.source.bytes.length := by
    rw [unending.empty, Nat.add_zero]
    exact unending.covered
  obtain ⟨source, reads, -, -⟩ := stream.readRecord_of_le enough
  rw [unending.empty, List.take_zero] at reads
  refine ⟨{ stream with source, started := true }, ?_, unending.isOpen, unending.empty,
    Nat.zero_le _⟩
  rw [next, if_neg unending.isOpen, reads]
  show (some (Except.ok (stream.layout.frame [])), _) = _
  rw [RecordLayout.frame, List.drop_nil, List.take_nil]

/-- A stream of empty records has an empty frame at every call. -/
theorem answer_unending (unending : stream.Unending) (call : Nat) :
    answer next stream call = some (.ok []) := by
  induction call generalizing stream with
  | zero =>
    obtain ⟨later, first, -⟩ := next_unending unending
    rw [answer, first]
  | succ call ih =>
    obtain ⟨later, first, goesOn⟩ := next_unending unending
    rw [answer, first, ih goesOn]

/-- However many items are asked for, a stream of empty records has them. -/
theorem pull_unending (unending : stream.Unending) (limit : Nat) :
    pull next limit stream = List.replicate limit (.ok []) := by
  induction limit generalizing stream with
  | zero => rfl
  | succ limit ih =>
    obtain ⟨later, first, goesOn⟩ := next_unending unending
    rw [pull, first, List.replicate_succ]
    exact congrArg _ (ih goesOn)

/-! ### Exactly which -/

/-- The stream has so many items and then nothing ever after. -/
def Ends (stream : FrameStream) : Prop :=
  ∃ items, GivesOut next stream items

theorem Unending.not_ends (unending : stream.Unending) : ¬ stream.Ends := by
  rintro ⟨items, gives⟩
  obtain ⟨call, nothing⟩ := gives.exists_answer_eq_none
  rw [answer_unending unending] at nothing
  cases nothing

/-- **A stream ends exactly when its records are not empty, or the source is too short for the bytes
in front of them.** Then it has at most one item more than there are whole records. Otherwise it has
an empty frame at every call, whatever else the source holds. A record that no buffer can hold is
not read at all. -/
theorem ends_iff (layout : RecordLayout) (source : Source) :
    (Ends { source, layout } ↔
        0 < layout.recordLength ∨ source.bytes.length < layout.skipInitialBytes) ∧
      (∀ items, GivesOut next { source, layout } items →
        items.length ≤
            (source.bytes.length - layout.skipInitialBytes) / layout.recordLength + 1 ∧
          (layout.recordLength < bufferBound →
            ∀ limit, readFrames source layout (some limit) = .ok (items.take limit))) ∧
      (layout.recordLength = 0 → layout.skipInitialBytes ≤ source.bytes.length →
        (∀ call, answer next { source, layout } call = some (.ok [])) ∧
          ∀ limit, readFrames source layout (some limit) = .ok (List.replicate limit (.ok []))) ∧
      (bufferBound ≤ layout.recordLength →
        ∀ limit, readFrames source layout limit = .error .overflow) := by
  have isOpen : ¬ ({ source, layout } : FrameStream).finished = true := Bool.false_ne_true
  have reads (fits : layout.recordLength < bufferBound) (limit : Nat) :
      readFrames source layout (some limit) = .ok (pull next limit { source, layout }) :=
    if_neg (Nat.not_le.mpr fits)
  have unending (empty : layout.recordLength = 0)
      (covered : layout.skipInitialBytes ≤ source.bytes.length) :
      Unending { source, layout } := ⟨isOpen, empty, covered⟩
  have ends : Ends { source, layout } ↔
      0 < layout.recordLength ∨ source.bytes.length < layout.skipInitialBytes := by
    refine ⟨fun ends => Decidable.byContradiction fun neither => ?_, fun either => ?_⟩
    · obtain ⟨empty, covered⟩ := not_or.mp neither
      exact (unending (Nat.eq_zero_of_not_pos empty) (Nat.not_lt.mp covered)).not_ends ends
    · obtain ⟨items, gives, -⟩ := exists_givesOut isOpen either
      exact ⟨items, gives⟩
  refine ⟨ends, fun items gives => ⟨?_, fun fits limit => ?_⟩,
    fun empty covered => ⟨answer_unending (unending empty covered), fun limit => ?_⟩,
    fun huge limit => if_pos huge⟩
  · obtain ⟨others, alsoGives, few⟩ := exists_givesOut isOpen (ends.mp ⟨items, gives⟩)
    rw [gives.items_eq alsoGives]
    exact few
  · rw [reads fits, gives.pull_eq_take]
  · rw [reads (by rw [empty]; decide), pull_unending (unending empty covered)]

/-- Records of nothing but a marker of four bytes. -/
def markerLayout : RecordLayout where
  frameLength := 0

/-- A stream of empty frames ends where their markers do. -/
theorem ends_markers :
    0 < markerLayout.recordLength ∧
      ∃ items, GivesOut next { source := ⟨[[1, 2, 3], [4, 5]], .complete⟩, layout := markerLayout }
        items ∧ items.length ≤ 2 := by
  obtain ⟨ends, few, -⟩ := ends_iff markerLayout ⟨[[1, 2, 3], [4, 5]], .complete⟩
  obtain ⟨items, gives⟩ := ends.mpr (.inl (by decide))
  exact ⟨by decide, items, gives, (few items gives).1⟩

/-- Records of no bytes. -/
def emptyLayout : RecordLayout where
  headerLength := 0
  frameLength := 0

/-- **A stream of records without bytes does not end**, even if its source has none. -/
theorem not_ends_emptyLayout :
    emptyLayout.recordLength < sizeBound ∧
      ¬ Ends { source := ⟨[], .complete⟩, layout := emptyLayout } ∧
      ∀ limit, readFrames ⟨[], .complete⟩ emptyLayout (some limit) =
        .ok (List.replicate limit (.ok [])) := by
  have unending : Unending { source := ⟨[], .complete⟩, layout := emptyLayout } :=
    ⟨Bool.false_ne_true, rfl, Nat.le_refl 0⟩
  exact ⟨by decide, unending.not_ends,
    fun limit => congrArg Except.ok (pull_unending unending limit)⟩

end Downlink.FrameStream
