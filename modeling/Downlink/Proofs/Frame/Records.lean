/-
**Streams of frames.**

Behind the bytes that are skipped, a stream of frames falls apart into records of one length, and
what is left at the end is too short for another. It does not matter how the source cuts its bytes
into pieces, nor where it stops: inside the bytes that are skipped, the wrapper, the frame, or just
between two records.

* `FrameStream.readRecord_of_le` and `FrameStream.readRecord_of_lt`: one record is read, or there is
  none;
* `FrameStream.givesOut_frames`: the frames are read one after another, then the source's failure,
  if it fails;
* `FrameStream.answer_framesFrom`: so the answers depend on the bytes and on the ending alone, as
  long as a record fits a buffer.
-/

import Mathlib.Data.List.Basic
import Downlink.Frame.Stream
import Downlink.Proofs.Answers
import Downlink.Proofs.Source
import Downlink.Proofs.Word

namespace Downlink

namespace RecordLayout

variable (layout : RecordLayout)

/-- The frames in so many records, of which the first begins at a place. -/
def framesFrom (bytes : Bytes) (start count : Nat) : List Bytes :=
  (List.range count).map fun index =>
    layout.frame (bytes.drop (start + index * layout.recordLength))

@[simp] theorem length_framesFrom (bytes : Bytes) (start count : Nat) :
    (layout.framesFrom bytes start count).length = count := by
  simp [framesFrom]

/-- A frame lies inside its record. -/
theorem frame_take (bytes : Bytes) :
    layout.frame (bytes.take layout.recordLength) = layout.frame bytes := by
  have inside : layout.frameLength ≤ layout.recordLength - layout.headerLength := by
    rw [recordLength]
    omega
  rw [frame, frame, List.drop_take, List.take_take, Nat.min_eq_left inside]

/-- The frames behind the first record begin where it ends. -/
theorem framesFrom_succ (bytes : Bytes) (start count : Nat) :
    layout.framesFrom bytes start (count + 1) =
      layout.frame (bytes.drop start) ::
        layout.framesFrom (bytes.drop (start + layout.recordLength)) 0 count := by
  rw [framesFrom, framesFrom, List.range_succ_eq_map, List.map_cons, List.map_map, Nat.zero_mul,
    Nat.add_zero]
  refine congrArg _ (List.map_congr_left fun index _ => ?_)
  show layout.frame (bytes.drop (start + (index + 1) * layout.recordLength)) = _
  rw [List.drop_drop]
  congr 2
  rw [Nat.succ_mul]
  omega

/-- The frame in a record that lies inside the bytes. -/
theorem slice?_frame {bytes : Bytes} {start count index : Nat}
    (room : start + count * layout.recordLength ≤ bytes.length) (inside : index < count) :
    bytes.slice? (start + index * layout.recordLength + layout.headerLength) layout.frameLength =
      some (layout.frame (bytes.drop (start + index * layout.recordLength))) := by
  have whole : index * layout.recordLength + layout.recordLength ≤ count * layout.recordLength := by
    rw [← Nat.succ_mul]
    exact Nat.mul_le_mul_right _ inside
  have covers : layout.headerLength + layout.frameLength ≤ layout.recordLength :=
    Nat.le_add_right _ _
  rw [Bytes.slice?_eq_some (by omega), frame, List.drop_drop]

end RecordLayout

namespace FrameStream

variable (stream : FrameStream)

/-! ### One record -/

/-- How many bytes are still to be skipped before the next record. -/
def skipped : Nat :=
  if stream.started then 0 else stream.layout.skipInitialBytes

theorem readRecord_eq :
    stream.readRecord = (stream.source.readExact stream.skipped).bind fun reached =>
      reached.2.readExact stream.layout.recordLength :=
  rfl

/-- Where there are enough bytes for a record, it is read, and nothing behind it. -/
theorem readRecord_of_le
    (enough : stream.skipped + stream.layout.recordLength ≤ stream.source.bytes.length) :
    ∃ later, stream.readRecord =
        .ok ((stream.source.bytes.drop stream.skipped).take stream.layout.recordLength, later) ∧
      later.bytes = stream.source.bytes.drop (stream.skipped + stream.layout.recordLength) ∧
      later.ending = stream.source.ending := by
  have reached : stream.skipped ≤ stream.source.bytes.length := by omega
  obtain ⟨behind, skips, bytesBehind, endingBehind⟩ := stream.source.readExact_of_le reached
  have room : stream.layout.recordLength ≤ behind.bytes.length := by
    rw [bytesBehind, List.length_drop]
    omega
  obtain ⟨later, reads, bytesLater, endingLater⟩ := behind.readExact_of_le room
  rw [bytesBehind] at reads bytesLater
  rw [List.drop_drop] at bytesLater
  refine ⟨later, ?_, bytesLater, endingLater.trans endingBehind⟩
  rw [readRecord_eq, skips]
  exact reads

/-- Where there are too few bytes for a record, the source is at its end. -/
theorem readRecord_of_lt
    (short : stream.source.bytes.length < stream.skipped + stream.layout.recordLength) :
    stream.readRecord = .error stream.source.ending := by
  rw [readRecord_eq]
  by_cases skips : stream.skipped ≤ stream.source.bytes.length
  · obtain ⟨behind, skips, bytesBehind, endingBehind⟩ := stream.source.readExact_of_le skips
    have none : behind.bytes.length < stream.layout.recordLength := by
      rw [bytesBehind, List.length_drop]
      omega
    rw [skips, ← endingBehind]
    exact behind.readExact_of_lt none
  · rw [stream.source.readExact_of_lt (Nat.not_le.mp skips)]
    rfl

/-! ### All records -/

variable {stream}

/-- Nothing is read from a stream that has come to its end. -/
theorem next_finished (finished : stream.finished = true) : stream.next = (none, stream) :=
  if_pos finished

/-- A stream whose bytes are too short for a record ends, after it has reported a failure. -/
theorem givesOut_short (isOpen : ¬ stream.finished = true)
    (ended : stream.readRecord = .error stream.source.ending) :
    GivesOut next stream stream.source.ending.reports := by
  have still : next { stream with started := true, finished := true } = _ := next_finished rfl
  cases ending : stream.source.ending with
  | complete =>
    rw [ending] at ended
    exact .nil (by rw [next, if_neg isOpen, ended]) still
  | failed reason =>
    rw [ending] at ended
    exact .cons (by rw [next, if_neg isOpen, ended]) (.nil still still)

/-- **A stream gives out the frames of all records that are there**, then the failure of its source,
if it fails. -/
theorem givesOut_frames {count : Nat} (isOpen : ¬ stream.finished = true)
    (some : 0 < stream.layout.recordLength)
    (fills : count = (stream.source.bytes.length - stream.skipped) / stream.layout.recordLength) :
    GivesOut next stream
      ((stream.layout.framesFrom stream.source.bytes stream.skipped count).map Except.ok ++
        stream.source.ending.reports) := by
  induction count generalizing stream with
  | zero =>
    have short := (Nat.div_eq_zero_iff_lt some).mp fills.symm
    exact givesOut_short isOpen (stream.readRecord_of_lt (by omega))
  | succ count ih =>
    have one : stream.layout.recordLength ≤ stream.source.bytes.length - stream.skipped := by
      apply (Nat.div_pos_iff.mp _).2
      rw [← fills]
      exact Nat.succ_pos count
    obtain ⟨later, reads, bytesLater, endingLater⟩ := stream.readRecord_of_le (by omega)
    have others : count = (later.bytes.length - 0) / stream.layout.recordLength := by
      rw [Nat.div_eq_sub_div some one, Nat.succ_inj] at fills
      rw [fills, bytesLater, List.length_drop, Nat.sub_zero, Nat.sub_sub]
    have rest : GivesOut next { stream with source := later, started := true } _ :=
      ih isOpen some others
    rw [RecordLayout.framesFrom_succ, List.map_cons, List.cons_append, ← endingLater, ← bytesLater]
    refine .cons ?_ rest
    rw [next, if_neg isOpen, reads]
    show (Option.some (Except.ok (stream.layout.frame (List.take _ _))), _) = _
    rw [RecordLayout.frame_take]

/-- **A stream of frames depends on its bytes and its ending alone.** Behind the bytes that are
skipped there are as many frames as whole records, each at its place in its record. However the
bytes are cut into pieces, the stream answers these frames one after another, then reports a failure
of the source once, and has nothing ever after; and asked for so many items, it gives the first of
them. Only a record that no buffer can hold cannot be read at all. -/
theorem answer_framesFrom (layout : RecordLayout) (some : 0 < layout.recordLength) (bytes : Bytes)
    (ending : Ending) :
    (layout.recordLength < bufferBound → ∃ frames : List Bytes,
      frames.length = (bytes.length - layout.skipInitialBytes) / layout.recordLength ∧
      (∀ index (inside : index < frames.length),
        bytes.slice? (layout.skipInitialBytes + index * layout.recordLength + layout.headerLength)
          layout.frameLength = .some frames[index]) ∧
      ∀ pieces : List Bytes, pieces.flatten = bytes →
        (∀ call, answer next { source := ⟨pieces, ending⟩, layout } call =
          (frames.map Except.ok ++ ending.reports)[call]?) ∧
        readFrames ⟨pieces, ending⟩ layout none = .ok (frames.map Except.ok ++ ending.reports) ∧
        ∀ limit, readFrames ⟨pieces, ending⟩ layout (.some limit) =
          .ok ((frames.map Except.ok ++ ending.reports).take limit)) ∧
    (bufferBound ≤ layout.recordLength →
      ∀ source limit, readFrames source layout limit = .error .overflow) := by
  refine ⟨fun fits => ?_, fun huge source limit => if_pos huge⟩
  obtain ⟨count, fills⟩ :
    ∃ count, count = (bytes.length - layout.skipInitialBytes) / layout.recordLength := ⟨_, rfl⟩
  have length := layout.length_framesFrom bytes layout.skipInitialBytes count
  refine ⟨layout.framesFrom bytes layout.skipInitialBytes count, length.trans fills, ?_, ?_⟩
  · intro index inside
    rw [length] at inside
    have whole := Nat.div_mul_le_self (bytes.length - layout.skipInitialBytes) layout.recordLength
    have positive : 0 < count * layout.recordLength :=
      Nat.mul_pos (Nat.zero_lt_of_lt inside) some
    rw [← fills] at whole
    rw [layout.slice?_frame (by omega) inside]
    simp [RecordLayout.framesFrom]
  · rintro pieces rfl
    have gives : GivesOut next { source := ⟨pieces, ending⟩, layout } _ :=
      givesOut_frames Bool.false_ne_true some fills
    have once := ending.length_reports_le Bytes
    have enough : count ≤ pieces.flatten.length := by
      rw [fills]
      exact Nat.le_trans (Nat.div_le_self _ _) (Nat.sub_le _ _)
    refine ⟨gives.answer_eq, ?_, fun limit => ?_⟩
    · rw [readFrames, if_neg (Nat.not_le.mpr fits)]
      refine congrArg Except.ok (gives.pull_eq ?_)
      rw [List.length_append, List.length_map, RecordLayout.length_framesFrom]
      show count + ending.reports.length ≤ pieces.flatten.length + 1
      omega
    · rw [readFrames, if_neg (Nat.not_le.mpr fits)]
      exact congrArg Except.ok (gives.pull_eq_take limit)

/-- Three bytes to skip, then records of eight: a marker of two bytes, the frame, and one byte. -/
def markedLayout : RecordLayout where
  headerLength := 2
  footerLength := 1
  skipInitialBytes := 3
  frameLength := 5

/-- Two such records and the beginning of a third, cut inside the skipped bytes, a marker, and the
frames. -/
def markedPieces : List Bytes :=
  [[99, 99], [99, 26, 207, 1, 2, 3], [4, 5, 0, 26], [207, 6, 7, 8, 9, 10, 0, 26, 207, 11]]

theorem answer_markedPieces :
    0 < markedLayout.recordLength ∧ markedLayout.recordLength < bufferBound ∧
      ∀ call, answer next { source := ⟨markedPieces, .failed "no signal"⟩, layout := markedLayout }
        call = ([.ok [1, 2, 3, 4, 5], .ok [6, 7, 8, 9, 10], .error (.io "no signal")] :
          List (Except Error Bytes))[call]? := by
  refine ⟨by decide, by decide, ?_⟩
  obtain ⟨frames, count, places, answers⟩ :=
    (answer_framesFrom markedLayout (by decide) markedPieces.flatten (.failed "no signal")).1
      (by decide)
  obtain ⟨first, second, rfl⟩ := List.length_eq_two.mp count
  obtain rfl : [1, 2, 3, 4, 5] = first := Option.some.inj (places 0 Nat.zero_lt_two)
  obtain rfl : [6, 7, 8, 9, 10] = second := Option.some.inj (places 1 Nat.one_lt_two)
  exact (answers markedPieces rfl).1

/-- Records that are as long as no buffer is. -/
def endlessLayout : RecordLayout where
  headerLength := 0
  frameLength := bufferBound

/-- With records that no buffer can hold, not even a source without bytes comes to its end. -/
theorem readFrames_endlessLayout :
    0 < endlessLayout.recordLength ∧ endlessLayout.recordLength < sizeBound ∧
      readFrames ⟨[], .complete⟩ endlessLayout none = .error .overflow ∧
      readFrames ⟨[], .complete⟩ endlessLayout none ≠ .ok [] := by
  refine ⟨by decide, by decide, rfl, ?_⟩
  intro same
  cases same

end FrameStream

end Downlink
