/-
**Runs of a channel.**

What is done to a channel is that it is given a frame or that it is reset (`ChannelAction`), any
number of times and in any order (`Reassembler.run`). When all frames have full length, no step goes
without an answer, and every state that is reached is sound: an idle channel has nothing pending,
and no channel has more pending than the longest packet.

* `Reassembler.run_preserves`: what every step keeps, every run keeps, and it has an answer;
* `Reassembler.accept_marked`: how the packets that come out are marked;
* `Reassembler.sound_run`: every state that is reached is sound.
-/

import Downlink.Proofs.Frame.Emission

namespace Downlink

/-- What can be done to a channel. -/
inductive ChannelAction
  | push (frame : Bytes)
  | reset
  deriving DecidableEq, Repr

/-- A frame has full length. -/
def ChannelAction.Complete (geometry : FrameGeometry) : ChannelAction → Prop
  | .push frame => geometry.frameLength ≤ frame.length
  | .reset => True

instance (geometry : FrameGeometry) (action : ChannelAction) :
    Decidable (action.Complete geometry) :=
  match action with
  | .push _ => inferInstanceAs (Decidable (_ ≤ _))
  | .reset => isTrue trivial

namespace Reassembler

/-- A channel that has not seen a frame. -/
def fresh (channel : Nat) (geometry : FrameGeometry) : Reassembler :=
  { channel, geometry }

/-- Does one thing to a channel. -/
def act (reassembler : Reassembler) : ChannelAction → Option (Reassembler × List FramedPacket)
  | .push frame => reassembler.push frame
  | .reset => some (reassembler.reset, [])

/-- Does one thing after another to a channel and gives out all packets. -/
def run (reassembler : Reassembler) :
    List ChannelAction → Option (Reassembler × List FramedPacket)
  | [] => some (reassembler, [])
  | action :: actions => do
    let (reassembler, packets) ← reassembler.act action
    let (reassembler, others) ← reassembler.run actions
    return (reassembler, packets ++ others)

/-- Gives one frame after another to a channel. -/
def pushAll (reassembler : Reassembler) (frames : List Bytes) :
    Option (Reassembler × List FramedPacket) :=
  reassembler.run (frames.map .push)

/-! ### Composing runs -/

variable {reassembler middle after : Reassembler} {emitted others : List FramedPacket}

theorem run_cons {action : ChannelAction} {actions : List ChannelAction}
    (first : reassembler.act action = some (middle, emitted))
    (later : middle.run actions = some (after, others)) :
    reassembler.run (action :: actions) = some (after, emitted ++ others) := by
  simp only [run, first, later, Option.bind_eq_bind, Option.bind_some, Option.pure_def]

/-- A run with an answer is one step with an answer and then a run with an answer. -/
theorem exists_of_run_cons {action : ChannelAction} {actions : List ChannelAction}
    (ran : reassembler.run (action :: actions) = some (after, emitted)) :
    ∃ middle first others, reassembler.act action = some (middle, first) ∧
      middle.run actions = some (after, others) ∧ first ++ others = emitted := by
  simp only [run, Option.bind_eq_bind, Option.bind_eq_some_iff] at ran
  obtain ⟨⟨middle, first⟩, acted, ⟨last, others⟩, continued, made⟩ := ran
  obtain ⟨rfl, rfl⟩ := Prod.mk.inj (Option.some.inj made)
  exact ⟨middle, first, others, acted, continued, rfl⟩

theorem run_append {actions later : List ChannelAction}
    (first : reassembler.run actions = some (middle, emitted))
    (second : middle.run later = some (after, others)) :
    reassembler.run (actions ++ later) = some (after, emitted ++ others) := by
  induction actions generalizing reassembler emitted with
  | nil =>
    obtain ⟨rfl, rfl⟩ := Prod.mk.inj (Option.some.inj first)
    exact second
  | cons action actions ih =>
    obtain ⟨next, packets, more, acted, continued, rfl⟩ := exists_of_run_cons first
    rw [List.append_assoc]
    exact run_cons acted (ih continued)

theorem pushAll_cons {frame : Bytes} {frames : List Bytes} {contents : FrameContents}
    (read : reassembler.geometry.contents? frame = some contents)
    (accepted : reassembler.accept contents = (middle, emitted))
    (later : middle.pushAll frames = some (after, others)) :
    reassembler.pushAll (frame :: frames) = some (after, emitted ++ others) := by
  have first : reassembler.act (.push frame) = some (reassembler.accept contents) :=
    push_eq_accept read
  exact run_cons (first.trans (congrArg some accepted)) later

/-- A frame at which nothing comes out. -/
theorem pushAll_cons_silent {frame : Bytes} {frames : List Bytes} {contents : FrameContents}
    (read : reassembler.geometry.contents? frame = some contents)
    (accepted : reassembler.accept contents = (middle, []))
    (later : middle.pushAll frames = some (after, others)) :
    reassembler.pushAll (frame :: frames) = some (after, others) :=
  pushAll_cons read accepted later

theorem pushAll_append {frames later : List Bytes}
    (first : reassembler.pushAll frames = some (middle, emitted))
    (second : middle.pushAll later = some (after, others)) :
    reassembler.pushAll (frames ++ later) = some (after, emitted ++ others) := by
  unfold pushAll
  rw [List.map_append]
  exact run_append first second

/-! ### What no step changes -/

/-- Two states of the same channel. -/
def SameChannel (first second : Reassembler) : Prop :=
  first.channel = second.channel ∧ first.geometry = second.geometry

theorem emit_same (reassembler : Reassembler) (spacecraft : Nat) :
    SameChannel (reassembler.emit spacecraft).1 reassembler := by
  unfold emit
  split
  · exact ⟨rfl, rfl⟩
  · exact ⟨rfl, rfl⟩

theorem append_same (reassembler : Reassembler) (bytes : Bytes) :
    SameChannel (reassembler.append bytes) reassembler := by
  unfold append
  split
  · exact ⟨rfl, rfl⟩
  · exact ⟨rfl, rfl⟩

theorem finish_same (reassembler : Reassembler) (spacecraft : Nat) (bytes : Bytes) :
    SameChannel (reassembler.finish spacecraft bytes).1 reassembler := by
  unfold finish
  split
  · exact ⟨rfl, rfl⟩
  · dsimp only
    split
    · have kept := emit_same (reassembler.append bytes) spacecraft
      have same := append_same reassembler bytes
      exact ⟨kept.1.trans same.1, kept.2.trans same.2⟩
    · exact append_same reassembler bytes

theorem extract_same (reassembler : Reassembler) (spacecraft : Nat) (zone : Bytes) :
    SameChannel (reassembler.extract spacecraft zone).1 reassembler := by
  obtain ⟨packets, rest, emitted, splits, extracted, _⟩ :=
    reassembler.exists_extract spacecraft zone
  rw [extracted]
  exact ⟨rfl, rfl⟩

theorem receive_same (reassembler : Reassembler) (spacecraft counter : Nat) (zone : Bytes)
    (reception : Reception) :
    SameChannel (reassembler.receive spacecraft counter zone reception).1 reassembler := by
  cases reception with
  | unsynced => exact ⟨rfl, rfl⟩
  | idle => exact ⟨rfl, rfl⟩
  | sync offset => exact extract_same _ spacecraft (zone.drop offset)
  | gap skipped => exact ⟨rfl, rfl⟩
  | outside => exact ⟨rfl, rfl⟩
  | continuation => exact append_same _ zone
  | boundary offset =>
    have kept := extract_same
      ({ reassembler with lastCounter := counter }.finish spacecraft (zone.take offset)).1
      spacecraft (zone.drop offset)
    have same := finish_same { reassembler with lastCounter := counter } spacecraft
      (zone.take offset)
    exact ⟨kept.1.trans same.1, kept.2.trans same.2⟩

/-- A channel keeps its number and its geometry. -/
theorem accept_same (reassembler : Reassembler) (contents : FrameContents) :
    SameChannel (reassembler.accept contents).1 reassembler :=
  receive_same { reassembler with stats.frames := reassembler.stats.frames + 1 } _ _ _ _

theorem push_same {reassembler after : Reassembler} {frame : Bytes} {emitted : List FramedPacket}
    (pushed : reassembler.push frame = some (after, emitted)) : SameChannel after reassembler := by
  simp only [push, Option.bind_eq_bind, Option.bind_eq_some_iff] at pushed
  obtain ⟨pointer, _, counter, _, spacecraft, _, pushed⟩ := pushed
  have kept := receive_same { reassembler with stats.frames := reassembler.stats.frames + 1 }
    spacecraft counter
  split at pushed
  · rename_i zone _
    have same := kept zone (reassembler.reception counter pointer)
    rw [Option.some.inj pushed] at same
    exact same
  · split at pushed
    · contradiction
    · have same := kept [] (reassembler.reception counter pointer)
      rw [Option.some.inj pushed] at same
      exact same

/-- A run keeps the channel's number and geometry. -/
theorem run_same {reassembler after : Reassembler} {actions : List ChannelAction}
    {emitted : List FramedPacket} (ran : reassembler.run actions = some (after, emitted)) :
    SameChannel after reassembler := by
  induction actions generalizing reassembler emitted with
  | nil =>
    obtain ⟨rfl, _⟩ := Prod.mk.inj (Option.some.inj ran)
    exact ⟨rfl, rfl⟩
  | cons action actions ih =>
    obtain ⟨middle, first, others, acted, continued, _⟩ := exists_of_run_cons ran
    have same : SameChannel middle reassembler := by
      cases action with
      | push frame => exact push_same acted
      | reset =>
        obtain ⟨rfl, _⟩ := Prod.mk.inj (Option.some.inj acted)
        exact ⟨rfl, rfl⟩
    have kept := ih continued
    exact ⟨kept.1.trans same.1, kept.2.trans same.2⟩

theorem geometry_of_accept {reassembler middle : Reassembler} {contents : FrameContents}
    {emitted : List FramedPacket} (accepted : reassembler.accept contents = (middle, emitted)) :
    middle.geometry = reassembler.geometry := by
  have same := (reassembler.accept_same contents).2
  rw [accepted] at same
  exact same

/-! ### Invariants of runs -/

/-- **What every step keeps, every run keeps**: a run of complete frames and resets has an answer,
and an invariant of what was done, the state, and the packets given out so far holds at its end. -/
theorem run_preserves {geometry : FrameGeometry}
    (invariant : List ChannelAction → Reassembler → List FramedPacket → Prop)
    (accepts : ∀ history reassembler emitted frame contents,
      reassembler.geometry = geometry → geometry.contents? frame = some contents →
      invariant history reassembler emitted →
      invariant (history ++ [.push frame]) (reassembler.accept contents).1
        (emitted ++ (reassembler.accept contents).2))
    (resets : ∀ history reassembler emitted, invariant history reassembler emitted →
      invariant (history ++ [.reset]) reassembler.reset emitted)
    {actions : List ChannelAction} (complete : ∀ action ∈ actions, action.Complete geometry)
    (history : List ChannelAction) (reassembler : Reassembler) (before : List FramedPacket)
    (same : reassembler.geometry = geometry) (start : invariant history reassembler before) :
    ∃ after emitted, reassembler.run actions = some (after, emitted) ∧
      after.geometry = geometry ∧ invariant (history ++ actions) after (before ++ emitted) := by
  induction actions generalizing history before reassembler with
  | nil =>
    refine ⟨reassembler, [], rfl, same, ?_⟩
    rw [List.append_nil, List.append_nil]
    exact start
  | cons action actions ih =>
    obtain ⟨first, others⟩ := List.forall_mem_cons.mp complete
    cases action with
    | push frame =>
      obtain ⟨contents, read⟩ := FrameGeometry.exists_contents first
      have kept := (reassembler.accept_same contents).2.trans same
      obtain ⟨after, emitted, ran, geometrySame, holds⟩ :=
        ih others _ _ _ kept (accepts history reassembler before frame contents same read start)
      have acted : reassembler.act (.push frame) = some (reassembler.accept contents) :=
        push_eq_accept (same ▸ read)
      refine ⟨after, _, run_cons acted ran, geometrySame, ?_⟩
      rw [List.append_assoc, List.append_assoc] at holds
      exact holds
    | reset =>
      obtain ⟨after, emitted, ran, geometrySame, holds⟩ :=
        ih others _ reassembler.reset _ same (resets history reassembler before start)
      have acted : reassembler.act .reset = some (reassembler.reset, []) := rfl
      refine ⟨after, _, run_cons acted ran, geometrySame, ?_⟩
      rw [List.append_assoc] at holds
      exact holds

/-- Nothing is pending while a channel waits, and never more than the longest packet. -/
structure Sound (reassembler : Reassembler) : Prop where
  idle : reassembler.state = .idle → reassembler.pending = []
  bounded : reassembler.pending.length ≤ PacketField.longestPacket

theorem sound_fresh (channel : Nat) (geometry : FrameGeometry) :
    Sound (fresh channel geometry) :=
  ⟨fun _ => rfl, Nat.zero_le _⟩

theorem sound_reset (reassembler : Reassembler) : Sound reassembler.reset :=
  ⟨fun _ => rfl, Nat.zero_le _⟩

theorem append_sound (reassembler : Reassembler) (running : reassembler.state = .running)
    (bytes : Bytes) : Sound (reassembler.append bytes) := by
  by_cases fits : reassembler.pending.length + bytes.length ≤ PacketField.longestPacket
  · rw [append_fits _ fits]
    refine ⟨fun idle => absurd (running.symm.trans idle) (by decide), ?_⟩
    rw [List.length_append]
    exact fits
  · rw [append_overflow _ (Nat.not_le.mp fits)]
    exact sound_reset reassembler

/-- The bytes before a start end at most one packet, and leave nothing pending. -/
theorem finish_eq (reassembler : Reassembler) (running : reassembler.state = .running)
    (spacecraft : Nat) (bytes : Bytes) :
    ∃ stats emitted,
      reassembler.finish spacecraft bytes =
        ({ reassembler with pending := [], stats }, emitted) ∧
      (emitted = [] ∨ ∃ packet : FramedPacket, emitted = [packet] ∧
        packet.view.bytes = reassembler.pending ++ bytes ∧
        packet.Marked spacecraft reassembler.channel) := by
  by_cases nothing : reassembler.pending = []
  · rw [finish_nothing _ _ _ nothing, nothing]
    exact ⟨_, [], rfl, Or.inl rfl⟩
  by_cases fits : reassembler.pending.length + bytes.length ≤ PacketField.longestPacket
  · rw [finish_fits _ _ running nothing fits]
    by_cases short : (reassembler.pending ++ bytes).length < PacketField.headerLength
    · rw [emit_short _ _ short]
      exact ⟨_, [], rfl, Or.inl rfl⟩
    · obtain ⟨packet, emitted, collected, marked⟩ :=
        { reassembler with pending := reassembler.pending ++ bytes }.emit_long spacecraft
          (Nat.not_lt.mp short)
      rw [emitted]
      exact ⟨_, [packet], rfl, Or.inr ⟨packet, rfl, collected, marked⟩⟩
  · rw [finish_overflow _ _ running nothing (Nat.not_le.mp fits)]
    exact ⟨_, [], rfl, Or.inl rfl⟩

/-- The rest of a zone gives out packets that are marked with where they came from. -/
theorem extract_marked (reassembler : Reassembler) (spacecraft : Nat) (zone : Bytes) :
    ∀ packet ∈ (reassembler.extract spacecraft zone).2,
      packet.Marked spacecraft reassembler.channel := by
  obtain ⟨packets, rest, emitted, splits, extracted, _, marked⟩ :=
    reassembler.exists_extract spacecraft zone
  rw [extracted]
  exact marked

theorem extract_sound (reassembler : Reassembler) (running : reassembler.state = .running)
    (spacecraft : Nat) (zone : Bytes) : Sound (reassembler.extract spacecraft zone).1 := by
  obtain ⟨packets, rest, emitted, splits, extracted, _⟩ :=
    reassembler.exists_extract spacecraft zone
  rw [extracted]
  exact ⟨fun idle => absurd (running.symm.trans idle) (by decide), splits.length_rest_le⟩

/-- A step keeps a channel sound. -/
theorem accept_sound {reassembler : Reassembler} (sound : Sound reassembler)
    (contents : FrameContents) : Sound (reassembler.accept contents).1 := by
  have means := reassembler.reception_means contents.counter contents.pointer
  cases reception : reassembler.reception contents.counter contents.pointer with
  | unsynced =>
    rw [accept_unsynced reception]
    exact ⟨sound.idle, sound.bounded⟩
  | idle =>
    rw [accept_idle reception]
    exact ⟨sound.idle, sound.bounded⟩
  | sync offset =>
    rw [accept_sync reception]
    exact extract_sound _ rfl _ _
  | gap skipped =>
    rw [accept_gap reception]
    exact sound_reset _
  | outside =>
    rw [accept_outside reception]
    exact sound_reset _
  | continuation =>
    rw [reception] at means
    rw [accept_continuation reception]
    exact append_sound (reassembler.noted _) means.1 _
  | boundary offset =>
    rw [reception] at means
    rw [accept_boundary reception]
    obtain ⟨stats, ended, finished, _⟩ := finish_eq (reassembler.noted contents.counter) means.1
      contents.spacecraft (contents.zone.take offset)
    rw [finished]
    exact extract_sound { reassembler.noted contents.counter with pending := [], stats } means.1
      _ _

/-- A channel marks what it gives out with its number and that of the spacecraft, and as valid
exactly when it is a packet. -/
theorem accept_marked (reassembler : Reassembler) (contents : FrameContents) :
    ∀ packet ∈ (reassembler.accept contents).2,
      packet.Marked contents.spacecraft reassembler.channel := by
  have means := reassembler.reception_means contents.counter contents.pointer
  cases reception : reassembler.reception contents.counter contents.pointer with
  | unsynced =>
    rw [accept_unsynced reception]
    exact List.forall_mem_nil _
  | idle =>
    rw [accept_idle reception]
    exact List.forall_mem_nil _
  | sync offset =>
    rw [accept_sync reception]
    exact extract_marked _ _ _
  | gap skipped =>
    rw [accept_gap reception]
    exact List.forall_mem_nil _
  | outside =>
    rw [accept_outside reception]
    exact List.forall_mem_nil _
  | continuation =>
    rw [accept_continuation reception]
    exact List.forall_mem_nil _
  | boundary offset =>
    rw [reception] at means
    rw [accept_boundary reception]
    obtain ⟨stats, ended, finished, atMost⟩ := finish_eq (reassembler.noted contents.counter)
      means.1 contents.spacecraft (contents.zone.take offset)
    rw [finished]
    refine List.forall_mem_append.mpr ⟨?_, extract_marked _ _ _⟩
    rcases atMost with none | ⟨packet, one, _, marked⟩
    · rw [none]
      exact List.forall_mem_nil _
    · rw [one]
      exact List.forall_mem_singleton.mpr marked

/-- Every state that is reached is sound. -/
theorem sound_run {geometry : FrameGeometry} (channel : Nat) {history : List ChannelAction}
    (complete : ∀ action ∈ history, action.Complete geometry) :
    ∃ after emitted, (fresh channel geometry).run history = some (after, emitted) ∧
      after.geometry = geometry ∧ Sound after := by
  obtain ⟨after, emitted, ran, same, sound⟩ :=
    run_preserves (fun _ reassembler _ => Sound reassembler)
      (fun _ _ _ _ contents _ _ sound => accept_sound sound contents)
      (fun _ reassembler _ _ => sound_reset reassembler) complete [] (fresh channel geometry) []
      rfl (sound_fresh channel geometry)
  exact ⟨after, emitted, ran, same, sound⟩

end Reassembler

/-- A geometry whose zones just hold the shortest packet. -/
def FrameGeometry.sevenByteZones : FrameGeometry where
  frameLength := 15
  headerLength := 6
  zoneStart := 8
  zoneLength := 7
  idlePointer := 0x7fe
  header_le := Nat.le_refl 6
  pointer_le := Nat.le_refl 8
  zone_pos := Nat.zero_lt_succ 6
  zone_le := Nat.le_refl 15

end Downlink
