/-
**Which losses are counted.**

When nothing of a frame's zone goes into a packet, or a running channel stops, one of the counts of
losses has to show it (`ReassemblyStats.LossCounted`). It does, but for one kind of frame
(`Reassembler.Unnoticed`): a running channel with nothing pending stops at a pointer outside the
zone, or at a zone that is longer than any packet, and counts the frame as it would any other. What
it counts then are the pending bytes that it gives up, and there are none.

* `accept_uncounted_iff`: what one frame does to a channel that is sound;
* `Reassembler.push_uncounted_iff`: the same in every state that is reached.
-/

import Downlink.Proofs.Frame.Balance

namespace Downlink

/-- One of the counts of losses has grown. -/
def ReassemblyStats.LossCounted (before after : ReassemblyStats) : Prop :=
  before.idleFrames < after.idleFrames ∨ before.droppedFrames < after.droppedFrames ∨
    before.gaps < after.gaps ∨ before.lengthMismatches < after.lengthMismatches ∨
    before.bytesDiscarded < after.bytesDiscarded

instance (before after : ReassemblyStats) : Decidable (before.LossCounted after) :=
  inferInstanceAs (Decidable (_ ∨ _ ∨ _ ∨ _ ∨ _))

namespace Reassembler

/-- A frame is lost, or the channel with it: the packets that came out and the pending one hold no
more bytes than were pending before, as when no byte of the frame went into any of them, or the
channel has stopped running. -/
def Loses (before after : Reassembler) (emitted : List FramedPacket) : Prop :=
  collected emitted + after.pending.length ≤ before.pending.length ∨
    before.state = .running ∧ after.state = .idle

/-- A running channel with nothing pending meets, where it waits for the next frame, a pointer
outside the zone or a zone without a start that is longer than any packet. -/
def Unnoticed (reassembler : Reassembler) (contents : FrameContents) : Prop :=
  reassembler.state = .running ∧ contents.counter = reassembler.expected ∧
    reassembler.pending = [] ∧
    (contents.pointer = noHeaderPointer ∧
        PacketField.longestPacket < reassembler.geometry.zoneLength ∨
      contents.pointer ≠ noHeaderPointer ∧
        contents.pointer ≠ reassembler.geometry.idlePointer ∧
        reassembler.geometry.zoneLength ≤ contents.pointer)

variable {reassembler : Reassembler} {frame : Bytes} {contents : FrameContents}

/-- Giving up does not show in the counts when nothing is pending. -/
theorem reset_uncounted_iff (reassembler : Reassembler) :
    ¬ reassembler.stats.LossCounted reassembler.reset.stats ↔ reassembler.pending = [] := by
  rw [← List.length_eq_zero_iff]
  simp [ReassemblyStats.LossCounted, reset]

/-- A frame of which something is taken in, without the channel stopping, loses nothing without a
count. -/
theorem accept_counted_of_intake (sound : Sound reassembler)
    (read : reassembler.geometry.contents? frame = some contents)
    (taken : 0 < reassembler.intake contents)
    (runs : reassembler.state = .running → (reassembler.accept contents).1.state ≠ .idle)
    (loses : Loses reassembler (reassembler.accept contents).1 (reassembler.accept contents).2) :
    reassembler.stats.LossCounted (reassembler.accept contents).1.stats := by
  rcases loses with less | ⟨running, stopped⟩
  · have bytes := (accept_balanced sound read).bytes
    refine Or.inr (Or.inr (Or.inr (Or.inr ?_)))
    omega
  · exact absurd stopped (runs running)

theorem extract_state (reassembler : Reassembler) (spacecraft : Nat) (zone : Bytes) :
    (reassembler.extract spacecraft zone).1.state = reassembler.state := by
  obtain ⟨packets, rest, emitted, splits, extracted, _⟩ :=
    reassembler.exists_extract spacecraft zone
  rw [extracted]

/-- A channel goes on running where it finds a start. -/
theorem accept_boundary_state {offset : Nat}
    (reception : reassembler.reception contents.counter contents.pointer = .boundary offset) :
    (reassembler.accept contents).1.state = .running := by
  have means := reassembler.reception_means contents.counter contents.pointer
  rw [reception] at means
  obtain ⟨stats, ended, finished, _⟩ := (reassembler.noted contents.counter).finish_eq means.1
    contents.spacecraft (contents.zone.take offset)
  rw [accept_boundary reception, finished]
  exact (extract_state _ _ _).trans means.1

/-- A channel that stops loses its frame. -/
theorem loses_of_reset {before stopped : Reassembler} (running : before.state = .running) :
    Loses before stopped.reset [] :=
  Or.inr ⟨running, rfl⟩

/-- What a frame loses is counted, but for a frame that goes unnoticed. -/
theorem accept_uncounted_iff (sound : Sound reassembler)
    (read : reassembler.geometry.contents? frame = some contents) :
    Loses reassembler (reassembler.accept contents).1 (reassembler.accept contents).2 ∧
        ¬ reassembler.stats.LossCounted (reassembler.accept contents).1.stats ↔
      reassembler.Unnoticed contents := by
  have means := reassembler.reception_means contents.counter contents.pointer
  have positive := reassembler.geometry.zone_pos
  cases reception : reassembler.reception contents.counter contents.pointer with
  | unsynced =>
    rw [reception] at means
    rw [accept_unsynced reception]
    simp [ReassemblyStats.LossCounted, Unnoticed, means.1]
  | idle =>
    rw [reception] at means
    rw [accept_idle reception]
    simp [ReassemblyStats.LossCounted, Unnoticed, means.1, means.1 ▸ means.2.1]
  | gap skipped =>
    rw [reception] at means
    rw [accept_gap reception]
    simp [ReassemblyStats.LossCounted, reset, Unnoticed, means.2.1]
  | outside =>
    rw [reception] at means
    obtain ⟨running, next, inside, notIdle, far⟩ := means
    have unnoticed : reassembler.Unnoticed contents ↔ reassembler.pending = [] := by
      simp [Unnoticed, running, next, inside, notIdle, far]
    rw [accept_outside reception, and_iff_right (loses_of_reset running), unnoticed]
    exact reset_uncounted_iff (reassembler.noted contents.counter)
  | continuation =>
    rw [reception] at means
    obtain ⟨running, next, pointer⟩ := means
    have zone := FrameGeometry.length_zone read
    by_cases long : reassembler.Overflows reassembler.geometry.zoneLength
    · have unnoticed : reassembler.Unnoticed contents ↔ reassembler.pending = [] := by
        constructor
        · rintro ⟨_, _, nothing, _⟩
          exact nothing
        · intro nothing
          rw [Overflows, nothing, List.length_nil, Nat.zero_add] at long
          exact ⟨running, next, nothing, Or.inl ⟨pointer, long⟩⟩
      rw [accept_continuation reception, append_overflow _ (zone ▸ long),
        and_iff_right (loses_of_reset running), unnoticed]
      exact reset_uncounted_iff (reassembler.noted contents.counter)
    · have noticed : ¬ reassembler.Unnoticed contents := by
        rintro ⟨_, _, nothing, ⟨_, far⟩ | ⟨other, _⟩⟩
        · rw [Overflows, nothing, List.length_nil, Nat.zero_add] at long
          exact long far
        · exact other pointer
      have runs : (reassembler.accept contents).1.state = .running := by
        rw [accept_continuation reception, append_fits _ (zone ▸ Nat.not_lt.mp long)]
        exact running
      have taken := (intake_continuation reception).1
      rw [if_neg long] at taken
      exact iff_of_false (fun lost => lost.2 (accept_counted_of_intake sound read
        (taken ▸ positive) (fun _ => by simp [runs]) lost.1)) noticed
  | sync offset =>
    rw [reception] at means
    obtain ⟨idle, _, _, _, near⟩ := means
    have taken := (intake_sync reception).1
    have noticed : ¬ reassembler.Unnoticed contents := by
      simp [Unnoticed, idle]
    exact iff_of_false (fun lost => lost.2 (accept_counted_of_intake sound read (by omega)
      (fun running => by simp [idle] at running) lost.1)) noticed
  | boundary offset =>
    rw [reception] at means
    obtain ⟨_, _, rfl, start⟩ := means
    have taken := (intake_boundary sound read reception).1
    have near := lt_of_boundary reception
    have notNone : noHeaderPointer ≠ 0 := by decide
    have noticed : ¬ reassembler.Unnoticed contents := by
      rintro ⟨_, _, _, ⟨none, _⟩ | ⟨_, _, far⟩⟩
      · rcases start with first | ⟨inside, _⟩
        · exact notNone (none.symm.trans first)
        · exact inside none
      · exact Nat.not_le.mpr near far
    exact iff_of_false (fun lost => lost.2 (accept_counted_of_intake sound read (by omega)
      (fun _ => by simp [accept_boundary_state reception]) lost.1)) noticed

/-- **What is lost without a count is what goes unnoticed**, in whatever state a channel is after
frames and resets; all other losses are counted. -/
theorem push_uncounted_iff {geometry : FrameGeometry} {channel : Nat}
    {history : List ChannelAction} (complete : ∀ action ∈ history, action.Complete geometry)
    {earlier : List FramedPacket}
    (reached : (fresh channel geometry).run history = some (reassembler, earlier))
    (full : geometry.frameLength ≤ frame.length) :
    ∃ contents after emitted, geometry.contents? frame = some contents ∧
      reassembler.push frame = some (after, emitted) ∧
      (Loses reassembler after emitted ∧ ¬ reassembler.stats.LossCounted after.stats ↔
        reassembler.Unnoticed contents) := by
  obtain ⟨state, packets, ran, same, sound⟩ := sound_run channel complete
  obtain ⟨rfl, _⟩ := Prod.mk.inj (Option.some.inj (reached.symm.trans ran))
  obtain ⟨contents, read⟩ := FrameGeometry.exists_contents full
  have held : reassembler.geometry.contents? frame = some contents := same ▸ read
  exact ⟨contents, _, _, read, push_eq_accept held, accept_uncounted_iff sound held⟩

/-- A packet that fills a zone. -/
def fullZone : Bytes := [8, 1, 192, 0, 0, 0, 17]

/-- The frame of that packet leaves a channel running with nothing pending. -/
def fullFrame : Bytes := [64, 5, 0, 0, 0, 0, 0, 0] ++ fullZone

/-- The frame after it, with a pointer outside the zone. -/
def outsideFrame : Bytes := [64, 5, 0, 0, 1, 0, 0, 100, 9, 9, 9, 9, 9, 9, 9]

theorem push_fullFrame : ∃ packets, (fresh 5 .sevenByteZones).push fullFrame =
    some ({ (fresh 5 .sevenByteZones).noted 0 with state := .running, stats.packets := 1 },
      packets) := by
  have whole : ∀ packet ∈ [fullZone], IsPacket packet := by decide
  have splits : Splits fullZone [fullZone] [] := Splits.of_packets whole isBeginning_nil
  obtain ⟨packets, extracted, _⟩ := extract_eq
    { (fresh 5 .sevenByteZones).noted 0 with state := .running, pending := [] } 0 splits
  exact ⟨packets, congrArg some extracted⟩

theorem push_outsideFrame_uncounted_iff :
    (∀ action ∈ [ChannelAction.push fullFrame], action.Complete .sevenByteZones) ∧
      FrameGeometry.sevenByteZones.frameLength ≤ outsideFrame.length ∧
      ∃ reached earlier,
        (fresh 5 .sevenByteZones).run [.push fullFrame] = some (reached, earlier) ∧
        ∃ contents after emitted,
          FrameGeometry.sevenByteZones.contents? outsideFrame = some contents ∧
          reached.push outsideFrame = some (after, emitted) ∧
          (Loses reached after emitted ∧ ¬ reached.stats.LossCounted after.stats ↔
            reached.Unnoticed contents) := by
  have complete : ∀ action ∈ [ChannelAction.push fullFrame],
      action.Complete .sevenByteZones := by decide
  have full : FrameGeometry.sevenByteZones.frameLength ≤ outsideFrame.length := by decide
  obtain ⟨reached, earlier, ran, _⟩ := sound_run 5 complete
  exact ⟨complete, full, reached, earlier, ran, push_uncounted_iff complete ran full⟩

/-- A channel that has nothing pending stops without a trace in the counts of losses. -/
theorem push_outsideFrame_not_counted :
    ∃ reached earlier after,
      (fresh 5 .sevenByteZones).run [.push fullFrame] = some (reached, earlier) ∧
        reached.push outsideFrame = some (after, []) ∧
        reached.state = .running ∧ after.state = .idle ∧ after.pending = [] ∧
        ¬ reached.stats.LossCounted after.stats := by
  obtain ⟨packets, pushed⟩ := push_fullFrame
  have acted : (fresh 5 .sevenByteZones).act (.push fullFrame) = some (_, packets) := pushed
  exact ⟨_, _, _, run_cons acted rfl, rfl, rfl, rfl, rfl, by decide⟩

end Reassembler

end Downlink
