/-
**Frames without packets.**

When a sender has nothing to send it puts in idle frames, which are numbered like all others. They
leave no trace but their count: with them and without them the same packets come out of a channel,
whatever its frames are (`Reassembler.pushAll_withIdle`).

* `WithIdle`: frames with idle frames put in, and the counters behind them raised;
* `Reassembler.push_idle`: what a channel does with an idle frame;
* `Reassembler.KeepsPace`: what the channel that is given the idle frames has to do with the one
  that is not, and `pushAll_keepsPace` that this holds throughout.
-/

import Downlink.Proofs.Frame.Renumbering
import Downlink.Proofs.Frame.RoundTrip

namespace Downlink

/-- Frames, and the same frames with idle frames put in among them. So many idle frames have been put
in before, and the last frame before these had this counter, if there was one. An idle frame is
numbered one after the frame before it, when there is one, and has any zone; the frames behind it
have their counters raised by one more. -/
inductive WithIdle (geometry : FrameGeometry) :
    Nat → Option Nat → List Bytes → List Bytes → Prop
  | nil {inserted : Nat} {last : Option Nat} : WithIdle geometry inserted last [] []
  | frame {inserted : Nat} {last : Option Nat} {frame : Bytes} {frames longer : List Bytes}
    (later : WithIdle geometry inserted (FrameField.counter? (FrameField.raised inserted frame))
      frames longer) :
    WithIdle geometry inserted last (frame :: frames) (FrameField.raised inserted frame :: longer)
  | idle {inserted counter : Nat} {last : Option Nat} {frame : Bytes} {frames longer : List Bytes}
    (pointer : geometry.firstHeaderPointer? frame = some geometry.idlePointer)
    (read : FrameField.counter? frame = some counter)
    (numbered : ∀ before ∈ last, counter = (before + 1) % counterModulus)
    (later : WithIdle geometry (inserted + 1) (some counter) frames longer) :
    WithIdle geometry inserted last frames (frame :: longer)

/-- The pointer of an idle frame cannot be mistaken for another. -/
structure FrameGeometry.IdleMarked (geometry : FrameGeometry) : Prop where
  ne_zero : geometry.idlePointer ≠ 0
  le : geometry.idlePointer ≤ 0x7fe

/-- What is counted of so many idle frames. -/
def idleCounts (inserted : Nat) : ReassemblyStats where
  frames := inserted
  idleFrames := inserted

theorem idleCounts_add_add (inserted : Nat) (stats : ReassemblyStats) :
    idleCounts inserted + stats + idleCounts 1 = idleCounts (inserted + 1) + stats := by
  show ReassemblyStats.add (.add (idleCounts inserted) stats) (idleCounts 1) =
    .add (idleCounts (inserted + 1)) stats
  simp [ReassemblyStats.add, idleCounts, Nat.add_right_comm]

namespace Reassembler

variable {reassembler : Reassembler} {frame : Bytes} {counter : Nat}

/-! ### One frame -/

/-- A running channel has accepted the last frame. -/
theorem counter?_of_running {after : Reassembler} {emitted : List FramedPacket}
    (pushed : reassembler.push frame = some (after, emitted)) (running : after.state = .running) :
    FrameField.counter? frame = some after.lastCounter := by
  obtain ⟨contents, held, accepted⟩ := push_eq_some_iff.mp pushed
  obtain rfl : (reassembler.accept contents).1 = after := congrArg Prod.fst accepted
  rw [(contentsFor?_eq_some_iff.mp held).2.1, accept_lastCounter]
  cases accepts : (reassembler.reception contents.counter contents.pointer).accepts
    reassembler.state with
  | true => rfl
  | false =>
    have idle := reassembler.accept_refused contents accepts
    exact absurd (running.symm.trans idle) (by decide)

/-- A channel that does not miss frames recognises an idle frame. -/
theorem reception_idle (marked : reassembler.geometry.IdleMarked)
    (next : reassembler.state = .running → counter = reassembler.expected) :
    reassembler.reception counter reassembler.geometry.idlePointer = .idle := by
  have some : reassembler.geometry.idlePointer ≠ noHeaderPointer := by
    have bound := marked.le
    unfold noHeaderPointer
    omega
  unfold reception
  cases state : reassembler.state with
  | idle =>
    dsimp only
    rw [if_neg some, if_pos rfl]
  | running =>
    have expected := next state
    unfold Reassembler.expected at expected
    dsimp only
    rw [if_neg (not_not_intro expected), if_neg marked.ne_zero, if_neg some, if_pos rfl]

/-- **An idle frame is counted, and its counter noted.** -/
theorem push_idle (reassembler : Reassembler) (marked : reassembler.geometry.IdleMarked)
    (pointer : reassembler.geometry.firstHeaderPointer? frame =
      some reassembler.geometry.idlePointer)
    (read : FrameField.counter? frame = some counter)
    (next : reassembler.state = .running → counter = reassembler.expected) :
    reassembler.push frame =
      some ({ reassembler with
        lastCounter := if reassembler.state = .running then counter else reassembler.lastCounter
        stats := reassembler.stats + idleCounts 1 }, []) := by
  have reception := reception_idle marked next
  have fits := (Word.isSome_read? Word.u123 frame 2).mp (Option.isSome_of_mem read)
  obtain ⟨first, readFirst⟩ := Word.u12.exists_read? frame 0 (by
    simp only [Word.u123, Word.u12] at *
    omega)
  have held : reassembler.contentsFor? frame = some ⟨reassembler.geometry.idlePointer, counter,
      first / 0x40 % 0x100, (reassembler.geometry.zone? frame).getD []⟩ := by
    refine contentsFor?_eq_some_iff.mpr ⟨pointer, read, ?_, ?_⟩
    · rw [FrameField.spacecraft?, readFirst]
      rfl
    · rw [reception]
      rfl
  exact push_eq_some_iff.mpr ⟨_, held, accept_idle reception⟩

/-! ### With and without idle frames -/

/-- The second channel has been given so many idle frames more than the first one. When it runs, it
has accepted the last frame, which had this counter. -/
structure KeepsPace (inserted : Nat) (last : Option Nat) (first second : Reassembler) : Prop where
  parallel : Parallel inserted (idleCounts inserted) first second
  numbered : second.state = .running → last = some second.lastCounter

namespace KeepsPace

variable {inserted : Nat} {last : Option Nat} {first second : Reassembler}

theorem of_fresh (channel : Nat) (geometry : FrameGeometry) :
    KeepsPace 0 none (fresh channel geometry) (fresh channel geometry) :=
  ⟨Parallel.of_idle rfl 0, fun running => by contradiction⟩

/-- A frame that both channels are given. -/
theorem push_both (pace : KeepsPace inserted last first second)
    (complete : first.geometry.frameLength ≤ frame.length) :
    ∃ after after' emitted, first.push frame = some (after, emitted) ∧
      second.push (FrameField.raised inserted frame) = some (after', emitted) ∧
      KeepsPace inserted (FrameField.counter? (FrameField.raised inserted frame)) after after' := by
  obtain ⟨contents, read⟩ := FrameGeometry.exists_contents complete
  rcases pace.parallel.push (FrameField.raised_spec first.geometry inserted frame) with
    ⟨ends, _⟩ | ⟨after, after', emitted, pushed, pushed', beside⟩
  · rw [push_eq_accept read] at ends
    contradiction
  · exact ⟨after, after', emitted, pushed, pushed', beside, counter?_of_running pushed'⟩

/-- An idle frame that only the second channel is given. -/
theorem push_idle (pace : KeepsPace inserted last first second)
    (marked : first.geometry.IdleMarked)
    (pointer : first.geometry.firstHeaderPointer? frame = some first.geometry.idlePointer)
    (read : FrameField.counter? frame = some counter)
    (numbered : ∀ before ∈ last, counter = (before + 1) % counterModulus) :
    ∃ after, second.push frame = some (after, []) ∧
      KeepsPace (inserted + 1) (some counter) first after := by
  have next (running : second.state = .running) : counter = second.expected :=
    numbered _ (pace.numbered running)
  cases pace.parallel with
  | @beside lastCounter follows =>
    let kept := if first.state = .running then counter else lastCounter
    have counts : { first with
        lastCounter := kept
        stats := idleCounts inserted + first.stats + idleCounts 1 } =
          first.displaced (idleCounts (inserted + 1)) kept := by
      rw [idleCounts_add_add]
      rfl
    have taken : (first.displaced (idleCounts inserted) lastCounter).push frame =
        some (first.displaced (idleCounts (inserted + 1)) kept, []) :=
      ((first.displaced _ lastCounter).push_idle marked pointer read next).trans
        (congrArg (fun after => some (after, [])) counts)
    refine ⟨_, taken, .beside fun running => ?_, fun running =>
      congrArg some (if_pos running).symm⟩
    have expected : counter = (first.expected + inserted) % counterModulus :=
      (next running).trans (follows running)
    have noted : kept = counter := if_pos running
    rw [noted, expected]
    simp only [counterModulus]
    omega

end KeepsPace

/-- **Idle frames keep a channel in pace with one that is not given them.** -/
theorem pushAll_keepsPace {geometry : FrameGeometry} (marked : geometry.IdleMarked)
    {inserted : Nat} {last : Option Nat} {frames longer : List Bytes}
    (withIdle : WithIdle geometry inserted last frames longer) {first second : Reassembler}
    (complete : ∀ frame ∈ frames, geometry.frameLength ≤ frame.length)
    (same : first.geometry = geometry) (pace : KeepsPace inserted last first second) :
    ∃ plain idled emitted total before, first.pushAll frames = some (plain, emitted) ∧
      second.pushAll longer = some (idled, emitted) ∧
      longer.length + inserted = frames.length + total ∧ KeepsPace total before plain idled := by
  -- The second channel takes a step at every constructor, the first one only at its own frames.
  induction withIdle generalizing first second with
  | @nil inserted last =>
    exact ⟨first, second, [], inserted, last, rfl, rfl, rfl, pace⟩
  | @frame inserted last frame frames longer later ih =>
    obtain ⟨long, others⟩ := List.forall_mem_cons.mp complete
    obtain ⟨after, after', given, pushed, pushed', kept⟩ := pace.push_both (same ▸ long)
    obtain ⟨plain, idled, emitted, total, before, ran, ran', length, paced⟩ :=
      ih others ((push_same pushed).2.trans same) kept
    have both : first.act (.push frame) = some (after, given) := pushed
    have both' : second.act (.push (FrameField.raised inserted frame)) = some (after', given) :=
      pushed'
    refine ⟨plain, idled, given ++ emitted, total, before, run_cons both ran,
      run_cons both' ran', ?_, paced⟩
    rw [List.length_cons, List.length_cons]
    omega
  | @idle inserted counter last frame frames longer pointer read numbered later ih =>
    subst same
    obtain ⟨after, pushed, kept⟩ := pace.push_idle marked pointer read numbered
    obtain ⟨plain, idled, emitted, total, before, ran, ran', length, paced⟩ := ih complete rfl kept
    have only : second.act (.push frame) = some (after, []) := pushed
    refine ⟨plain, idled, emitted, total, before, ran, run_cons only ran', ?_, paced⟩
    rw [List.length_cons]
    omega

/-- **Idle frames leave no trace but their count.** When idle frames are put in anywhere among the
frames that a channel is given, whatever these are, the same packets come out of it, and it ends in
the same state, with the same bytes pending and the same counts, but for the frames and the idle
frames, of which it counts as many more as have been put in. -/
theorem pushAll_withIdle {geometry : FrameGeometry} (marked : geometry.IdleMarked)
    (channel : Nat) {frames longer : List Bytes}
    (complete : ∀ frame ∈ frames, geometry.frameLength ≤ frame.length)
    (withIdle : WithIdle geometry 0 none frames longer) :
    ∃ plain idled emitted inserted,
      (fresh channel geometry).pushAll frames = some (plain, emitted) ∧
      (fresh channel geometry).pushAll longer = some (idled, emitted) ∧
      idled.state = plain.state ∧ idled.pending = plain.pending ∧
      longer.length = frames.length + inserted ∧
      idled.stats = { plain.stats with
        frames := plain.stats.frames + inserted
        idleFrames := plain.stats.idleFrames + inserted } := by
  obtain ⟨plain, idled, emitted, inserted, _, ran, ran', length, pace⟩ :=
    pushAll_keepsPace marked withIdle complete rfl (KeepsPace.of_fresh channel geometry)
  obtain ⟨⟨_⟩, _⟩ := pace
  refine ⟨plain, _, emitted, inserted, ran, ran', rfl, rfl, length, ?_⟩
  show ReassemblyStats.add (idleCounts inserted) plain.stats = _
  simp [ReassemblyStats.add, idleCounts, Nat.add_comm inserted]

/-- A packet in two frames, behind it the beginning of another; the counter starts again. -/
def wrappedFrames : List Bytes :=
  [[64, 5, 255, 255, 255, 0, 0, 0, 8, 1, 192, 0, 0, 99],
    [64, 5, 0, 0, 0, 0, 0, 2, 0, 17, 8, 1, 192, 99]]

/-- An idle frame before each of them. -/
def wrappedWithIdle : List Bytes :=
  [[64, 5, 0, 0, 7, 0, 7, 254, 1, 2, 3, 4, 5, 99],
    [64, 5, 0, 0, 0, 0, 0, 0, 8, 1, 192, 0, 0, 99],
    [64, 5, 0, 0, 1, 0, 7, 254, 5, 4, 3, 2, 1, 99],
    [64, 5, 0, 0, 2, 0, 0, 2, 0, 17, 8, 1, 192, 99]]

theorem pushAll_wrappedWithIdle :
    FrameGeometry.shortZones.IdleMarked ∧
      (∀ frame ∈ wrappedFrames, FrameGeometry.shortZones.frameLength ≤ frame.length) ∧
      WithIdle .shortZones 0 none wrappedFrames wrappedWithIdle ∧
      ∃ plain idled emitted inserted,
        (fresh 5 .shortZones).pushAll wrappedFrames = some (plain, emitted) ∧
        (fresh 5 .shortZones).pushAll wrappedWithIdle = some (idled, emitted) ∧
        idled.state = plain.state ∧ idled.pending = plain.pending ∧
        wrappedWithIdle.length = wrappedFrames.length + inserted ∧
        idled.stats = { plain.stats with
          frames := plain.stats.frames + inserted
          idleFrames := plain.stats.idleFrames + inserted } := by
  have marked : FrameGeometry.shortZones.IdleMarked := ⟨by decide, by decide⟩
  have complete : ∀ frame ∈ wrappedFrames,
      FrameGeometry.shortZones.frameLength ≤ frame.length := by decide
  have withIdle : WithIdle .shortZones 0 none wrappedFrames wrappedWithIdle :=
    .idle rfl rfl (by decide) (.frame (.idle rfl rfl (by decide) (.frame .nil)))
  exact ⟨marked, complete, withIdle, pushAll_withIdle marked 5 complete withIdle⟩

end Reassembler

end Downlink
