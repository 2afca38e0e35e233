/-
**A channel that waits has forgotten everything.**

Whatever has been done to a channel, as soon as it waits for the start of a packet it is as good as
new: from then on it does with frames what a channel does that has never seen one, and only its
counts tell the two apart. So what is lost with a missing or damaged frame is contained.

* `ChannelAction.Stops`: what leaves a channel waiting;
* `Reassembler.act_stops`: nothing else does, and no packets come out of it;
* `Reassembler.push_gap`: what is counted of the frames that are missing;
* `Reassembler.sightings_eq_fresh`: a channel that waits is as good as new;
* `Reassembler.run_contained`: all of this for any channel that can be reached.
-/

import Downlink.Proofs.Frame.Losses
import Downlink.Proofs.Frame.Parallel
import Downlink.Proofs.Frame.Tracking

namespace Downlink

/-! ### What is sound after any run -/

namespace Reassembler

variable {reassembler after : Reassembler} {action : ChannelAction} {emitted : List FramedPacket}

/-- Whatever is done to a channel keeps it sound, short frames included. -/
theorem act_sound (sound : Sound reassembler)
    (acted : reassembler.act action = some (after, emitted)) : Sound after := by
  cases action with
  | reset =>
    obtain ⟨rfl, _⟩ := Prod.mk.inj (Option.some.inj acted)
    exact sound_reset reassembler
  | push frame =>
    obtain ⟨contents, _, accepted⟩ := push_eq_some_iff.mp acted
    have kept := accept_sound sound contents
    rw [accepted] at kept
    exact kept

theorem run_sound {actions : List ChannelAction} (sound : Sound reassembler)
    (ran : reassembler.run actions = some (after, emitted)) : Sound after := by
  induction actions generalizing reassembler emitted with
  | nil =>
    obtain ⟨rfl, _⟩ := Prod.mk.inj (Option.some.inj ran)
    exact sound
  | cons action actions ih =>
    obtain ⟨middle, first, others, acted, continued, _⟩ := exists_of_run_cons ran
    exact ih (act_sound sound acted) continued

end Reassembler

/-! ### Frames that leave a channel waiting -/

/-- A channel that makes this of a frame waits when it has taken it. -/
def Reception.Stops (reassembler : Reassembler) : Reception → Prop
  | .unsynced | .gap _ | .outside => True
  | .idle => reassembler.state = .idle
  | .continuation => reassembler.Overflows reassembler.geometry.zoneLength
  | .sync _ | .boundary _ => False

namespace Reassembler

/-- A frame with this counter and pointer leaves the channel waiting. A waiting channel finds no
start in it; a running one misses frames before it, or would have a pending packet longer than any,
or the pointer lies outside the zone. -/
def Stops (reassembler : Reassembler) (counter pointer : Nat) : Prop :=
  let geometry := reassembler.geometry
  match reassembler.state with
  | .idle =>
    pointer = noHeaderPointer ∨ pointer = geometry.idlePointer ∨ geometry.zoneLength ≤ pointer
  | .running =>
    counter ≠ reassembler.expected ∨
      pointer = noHeaderPointer ∧ reassembler.Overflows geometry.zoneLength ∨
      pointer ≠ noHeaderPointer ∧ pointer ≠ geometry.idlePointer ∧ geometry.zoneLength ≤ pointer

/-- What the channel makes of such a frame stops it. -/
theorem reception_stops_iff (reassembler : Reassembler) (counter pointer : Nat) :
    (reassembler.reception counter pointer).Stops reassembler ↔
      reassembler.Stops counter pointer := by
  have zone := Nat.pos_iff_ne_zero.mp reassembler.geometry.zone_pos
  have first : 0 ≠ noHeaderPointer := by decide
  unfold reception Stops
  cases state : reassembler.state with
  | idle =>
    dsimp only
    repeat' split
    all_goals simp_all [Reception.Stops]
  | running =>
    dsimp only
    repeat' split
    all_goals simp_all [Reception.Stops, expected]

variable {reassembler : Reassembler} {contents : FrameContents}

/-- A frame that continues a packet leaves the channel waiting when that grows too long. -/
theorem append_state (reassembler : Reassembler) (running : reassembler.state = .running)
    (bytes : Bytes) :
    (reassembler.append bytes).state = .idle ↔ reassembler.Overflows bytes.length := by
  by_cases fits : reassembler.pending.length + bytes.length ≤ PacketField.longestPacket
  · rw [append_fits _ fits]
    refine ⟨fun idle => absurd (running.symm.trans idle) (by decide), fun overflows => ?_⟩
    exact absurd fits (Nat.not_le.mpr overflows)
  · have long := Nat.not_le.mp fits
    rw [append_overflow _ long]
    exact ⟨fun _ => long, fun _ => rfl⟩

/-- A frame leaves the channel waiting as its reception says, and then no packet comes out. -/
theorem accept_stops
    (length : reassembler.reception contents.counter contents.pointer = .continuation →
      contents.zone.length = reassembler.geometry.zoneLength) :
    ((reassembler.accept contents).1.state = .idle ↔
        (reassembler.reception contents.counter contents.pointer).Stops reassembler) ∧
      ((reassembler.accept contents).1.state = .idle → (reassembler.accept contents).2 = []) := by
  have means := reassembler.reception_means contents.counter contents.pointer
  have runs {after : Reassembler} (running : after.state = .running) {condition : Prop} :
      after.state = .idle → condition := fun idle => absurd (running.symm.trans idle) (by decide)
  cases reception : reassembler.reception contents.counter contents.pointer with
  | unsynced =>
    rw [reception] at means
    rw [accept_unsynced reception]
    exact ⟨⟨fun _ => trivial, fun _ => means.1⟩, fun _ => rfl⟩
  | idle =>
    rw [accept_idle reception]
    exact ⟨Iff.rfl, fun _ => rfl⟩
  | sync offset =>
    have running : (reassembler.accept contents).1.state = .running := by
      rw [accept_sync reception]
      exact extract_state _ _ _
    exact ⟨⟨runs running, False.elim⟩, runs running⟩
  | gap skipped =>
    rw [accept_gap reception]
    exact ⟨⟨fun _ => trivial, fun _ => rfl⟩, fun _ => rfl⟩
  | outside =>
    rw [accept_outside reception]
    exact ⟨⟨fun _ => trivial, fun _ => rfl⟩, fun _ => rfl⟩
  | continuation =>
    rw [reception] at means
    have stops := (reassembler.noted contents.counter).append_state means.1 contents.zone
    rw [length reception] at stops
    rw [accept_continuation reception]
    exact ⟨stops, fun _ => rfl⟩
  | boundary offset =>
    have running := accept_boundary_state reception
    exact ⟨⟨runs running, False.elim⟩, runs running⟩

/-- What is read off a frame that continues a packet is a whole zone. -/
theorem length_of_contentsFor? {frame : Bytes}
    (read : reassembler.contentsFor? frame = some contents)
    (reception : reassembler.reception contents.counter contents.pointer = .continuation) :
    contents.zone.length = reassembler.geometry.zoneLength := by
  have looked := (contentsFor?_eq_some_iff.mp read).2.2.2
  have held : reassembler.geometry.zone? frame = some contents.zone := by
    rw [← looked]
    exact (if_pos (congrArg Reception.readsZone reception)).symm
  exact Bytes.length_slice? held

end Reassembler

/-- What leaves the channel waiting: a frame that stops it, or a reset. -/
def ChannelAction.Stops (reassembler : Reassembler) : ChannelAction → Prop
  | .push frame => ∃ pointer counter,
      reassembler.geometry.firstHeaderPointer? frame = some pointer ∧
        FrameField.counter? frame = some counter ∧ reassembler.Stops counter pointer
  | .reset => True

namespace Reassembler

variable {reassembler after : Reassembler} {action : ChannelAction} {emitted : List FramedPacket}

/-- **These frames, and a reset, leave a channel waiting; no others do.** No packets come out. -/
theorem act_stops (acted : reassembler.act action = some (after, emitted)) :
    (after.state = .idle ↔ action.Stops reassembler) ∧ (after.state = .idle → emitted = []) := by
  cases action with
  | reset =>
    obtain ⟨rfl, rfl⟩ := Prod.mk.inj (Option.some.inj acted)
    exact ⟨⟨fun _ => trivial, fun _ => rfl⟩, fun _ => rfl⟩
  | push frame =>
    obtain ⟨contents, read, accepted⟩ := push_eq_some_iff.mp acted
    obtain ⟨stops, silent⟩ := accept_stops (length_of_contentsFor? read)
    rw [accepted] at stops silent
    obtain ⟨readPointer, readCounter, _, _⟩ := contentsFor?_eq_some_iff.mp read
    refine ⟨(stops.trans (reception_stops_iff _ _ _)).trans ⟨fun stopped => ?_, ?_⟩, silent⟩
    · exact ⟨_, _, readPointer, readCounter, stopped⟩
    · rintro ⟨pointer, counter, samePointer, sameCounter, stopped⟩
      rw [Option.some.inj (readPointer.symm.trans samePointer),
        Option.some.inj (readCounter.symm.trans sameCounter)]
      exact stopped

/-! ### Missing frames -/

/-- The frames missing before one with this counter are those between it and the last one. -/
theorem skippedFrames_expected (reassembler : Reassembler) (counter : Nat) :
    (skippedFrames reassembler.expected counter : Int) =
      ((counter : Int) - reassembler.lastCounter - 1) % counterModulus := by
  simp only [skippedFrames, expected, counterModulus]
  omega

/-- A gap is counted, and so are the frames that are missing. -/
theorem push_gap {frame : Bytes} {counter : Nat} (running : reassembler.state = .running)
    (read : FrameField.counter? frame = some counter) (gap : counter ≠ reassembler.expected)
    (pushed : reassembler.push frame = some (after, emitted)) :
    after.stats.gaps = reassembler.stats.gaps + 1 ∧
      (after.stats.framesSkipped : Int) = reassembler.stats.framesSkipped +
        ((counter : Int) - reassembler.lastCounter - 1) % counterModulus := by
  obtain ⟨contents, held, accepted⟩ := push_eq_some_iff.mp pushed
  have same := (contentsFor?_eq_some_iff.mp held).2.1
  obtain rfl := Option.some.inj (read.symm.trans same)
  rw [accept_gap (reception_gap running gap _)] at accepted
  obtain ⟨rfl, _⟩ := Prod.mk.inj accepted
  rw [← skippedFrames_expected]
  exact ⟨rfl, rfl⟩

/-! ### As good as new -/

/-- A sound channel that waits is a new one, but for its counts and its last counter. -/
theorem eq_displaced_fresh (sound : Sound reassembler) (idle : reassembler.state = .idle) :
    reassembler = (fresh reassembler.channel reassembler.geometry).displaced reassembler.stats
      reassembler.lastCounter := by
  have nothing := sound.idle idle
  obtain ⟨channel, geometry, state, lastCounter, pending, stats⟩ := reassembler
  subst idle nothing
  rfl

/-- **A channel that waits is as good as new**: from now on the same is seen of it, but for what it
has counted up to now. -/
theorem sightings_eq_fresh (sound : Sound reassembler) (idle : reassembler.state = .idle)
    (frames : List Bytes) :
    reassembler.sightings frames =
      ((fresh reassembler.channel reassembler.geometry).sightings frames).map
        (List.map (·.behind reassembler.stats)) := by
  have beside : Parallel 0 reassembler.stats (fresh reassembler.channel reassembler.geometry)
      reassembler := by
    rw [eq_displaced_fresh sound idle]
    exact Parallel.of_idle rfl _
  have same := beside.sightings_eq rfl (FrameGeometry.Raised.refl reassembler.geometry) frames
  rw [List.map_id'] at same
  exact same

/-- **What is lost is contained.** Whatever has been done to a channel before, it waits after those
frames that stop it and after a reset. Then no packet has come out, and all that is seen of it at
further frames is what is seen of a new channel that is given these frames alone; its counts grow by
what the new one counts. At a gap, the frames that are counted as missing are those between the last
counter and the one that came. -/
theorem run_contained {channel : Nat} {geometry : FrameGeometry} {history : List ChannelAction}
    {reached : Reassembler} {earlier : List FramedPacket}
    (ran : (fresh channel geometry).run history = some (reached, earlier))
    (acted : reached.act action = some (after, emitted)) :
    (after.state = .idle ↔ action.Stops reached) ∧
      (after.state = .idle → emitted = [] ∧ ∀ frames,
        after.sightings frames = ((fresh channel geometry).sightings frames).map
          (List.map (·.behind after.stats)) ∧
        ((∀ frame ∈ frames, geometry.frameLength ≤ frame.length) →
          ∃ seen, after.sightings frames = some seen ∧ seen.length = frames.length)) ∧
      ∀ frame counter, action = .push frame → FrameField.counter? frame = some counter →
        reached.state = .running → counter ≠ reached.expected →
        after.stats.gaps = reached.stats.gaps + 1 ∧
          (after.stats.framesSkipped : Int) = reached.stats.framesSkipped +
            ((counter : Int) - reached.lastCounter - 1) % counterModulus := by
  have sound : Sound after := act_sound (run_sound (sound_fresh channel geometry) ran) acted
  have last : reached.run [action] = some (after, emitted ++ []) := run_cons acted rfl
  have same : SameChannel after (fresh channel geometry) := run_same (run_append ran last)
  obtain ⟨stops, silent⟩ := act_stops acted
  refine ⟨stops, fun idle => ⟨silent idle, fun frames => ⟨?_, fun complete => ?_⟩⟩, ?_⟩
  · have asNew := sightings_eq_fresh sound idle frames
    rw [same.1, same.2] at asNew
    exact asNew
  · exact after.exists_sightings (same.2 ▸ complete)
  · rintro frame counter rfl read running gap
    exact push_gap running read gap acted

/-- A frame with a counter that is too high. -/
def lateFrame : Bytes := [64, 5, 0, 0, 9, 0, 0, 0, 8, 1, 192, 0, 0, 0, 17]

theorem run_lateFrame_contained :
    ∃ reached earlier after,
      (fresh 5 .sevenByteZones).run [.push fullFrame] = some (reached, earlier) ∧
        reached.act (.push lateFrame) = some (after, []) ∧
        (ChannelAction.push lateFrame).Stops reached ∧
        (∀ frames, after.sightings frames = ((fresh 5 .sevenByteZones).sightings frames).map
          (List.map (·.behind after.stats))) ∧
        after.stats.gaps = 1 ∧ after.stats.framesSkipped = 8 := by
  obtain ⟨packets, pushed⟩ := push_fullFrame
  let reached : Reassembler :=
    { (fresh 5 .sevenByteZones).noted 0 with state := .running, stats.packets := 1 }
  have first : (fresh 5 .sevenByteZones).act (.push fullFrame) = some (reached, packets) := pushed
  have ran : (fresh 5 .sevenByteZones).run [.push fullFrame] = some (reached, packets ++ []) :=
    run_cons first rfl
  have acted : reached.act (.push lateFrame) = some (_, []) := rfl
  obtain ⟨stops, contained, gap⟩ := run_contained ran acted
  have asNew := fun frames => ((contained rfl).2 frames).1
  obtain ⟨gaps, skipped⟩ := gap lateFrame 9 rfl rfl rfl (by decide)
  exact ⟨reached, _, _, ran, acted, stops.mp rfl, asNew, gaps, Int.ofNat.inj skipped⟩

end Reassembler

end Downlink
