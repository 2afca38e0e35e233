/-
**Any frames at all can be taken.**

Frames come from a radio link, and a demultiplexer is given whatever arrives: bytes of any number
and any content. It answers every one of them, keeps each of its channels safe (`Reassembler.Safe`),
and gives out no more packets than fit a zone. Taken check by check (`Demux.checkedPush`), it meets
no breach as long as the counts of its channels fit.

* `Reassembler.accept_bounds`: what one frame can do to its channel;
* `Demux.push_safe`: what one frame does;
* `Demux.pushAll_safe`: what any frames do, one after another.
-/

import Downlink.Proofs.Frame.Checked
import Downlink.Proofs.Frame.Losses

namespace Downlink

namespace Reassembler

/-- A channel that is sound and holds a counter that can follow another. -/
structure Safe (reassembler : Reassembler) : Prop where
  sound : Sound reassembler
  counted : reassembler.lastCounter < counterModulus

variable {reassembler : Reassembler} {frame : Bytes} {contents : FrameContents}

theorem safe_fresh (channel : Nat) (geometry : FrameGeometry) : Safe (fresh channel geometry) :=
  ⟨sound_fresh channel geometry, Nat.zero_lt_succ _⟩

/-- The rest of a zone keeps the counter, and completes no more packets than fit it. -/
theorem extract_bounds (reassembler : Reassembler) (spacecraft : Nat) (zone : Bytes) :
    (reassembler.extract spacecraft zone).1.lastCounter = reassembler.lastCounter ∧
      (reassembler.extract spacecraft zone).2.length ≤ zone.length / 7 := by
  obtain ⟨packets, rest, emitted, splits, extracted, collected, _⟩ :=
    reassembler.exists_extract spacecraft zone
  have bound := splits.length_le
  rw [← collected, List.length_map] at bound
  rw [extracted]
  refine ⟨rfl, (Nat.le_div_iff_mul_le (by decide)).mpr ?_⟩
  rw [Nat.mul_comm]
  exact bound

/-- **What a frame can do**: the channel holds the counter that it held before or that of the frame,
and no more packets come out than a pending one and those that fit the zone. -/
theorem accept_bounds (read : reassembler.geometry.contents? frame = some contents) :
    ((reassembler.accept contents).1.lastCounter = reassembler.lastCounter ∨
        (reassembler.accept contents).1.lastCounter = contents.counter) ∧
      (reassembler.accept contents).2.length ≤ 1 + reassembler.geometry.zoneLength / 7 := by
  have means := reassembler.reception_means contents.counter contents.pointer
  have fits (offset : Nat) : (contents.zone.drop offset).length / 7 ≤
      reassembler.geometry.zoneLength / 7 := by
    rw [List.length_drop, FrameGeometry.length_zone read]
    exact Nat.div_le_div_right (Nat.sub_le _ _)
  cases reception : reassembler.reception contents.counter contents.pointer with
  | unsynced =>
    rw [accept_unsynced reception]
    exact ⟨Or.inl rfl, Nat.zero_le _⟩
  | idle =>
    rw [accept_idle reception]
    refine ⟨?_, Nat.zero_le _⟩
    by_cases running : reassembler.state = .running
    · exact Or.inr (if_pos running)
    · exact Or.inl (if_neg running)
  | sync offset =>
    rw [accept_sync reception]
    obtain ⟨counter, length⟩ := extract_bounds
      { reassembler.noted contents.counter with state := .running, pending := [] }
      contents.spacecraft (contents.zone.drop offset)
    exact ⟨Or.inr counter, Nat.le_add_left_of_le (Nat.le_trans length (fits offset))⟩
  | gap skipped =>
    rw [accept_gap reception]
    exact ⟨Or.inl rfl, Nat.zero_le _⟩
  | outside =>
    rw [accept_outside reception]
    exact ⟨Or.inr rfl, Nat.zero_le _⟩
  | continuation =>
    rw [accept_continuation reception]
    refine ⟨Or.inr ?_, Nat.zero_le _⟩
    unfold append
    split
    · rfl
    · rfl
  | boundary offset =>
    rw [reception] at means
    obtain ⟨stats, ended, finished, atMost⟩ := (reassembler.noted contents.counter).finish_eq
      means.1 contents.spacecraft (contents.zone.take offset)
    have one : ended.length ≤ 1 := by
      rcases atMost with rfl | ⟨packet, rfl, _⟩
      · exact Nat.zero_le _
      · exact Nat.le_refl _
    obtain ⟨counter, length⟩ := extract_bounds
      { reassembler.noted contents.counter with pending := [], stats } contents.spacecraft
      (contents.zone.drop offset)
    rw [accept_boundary reception, finished]
    dsimp only
    rw [List.length_append]
    exact ⟨Or.inr counter, Nat.add_le_add one (Nat.le_trans length (fits offset))⟩

/-- A frame keeps a channel safe. -/
theorem accept_safe (safe : Safe reassembler)
    (read : reassembler.geometry.contents? frame = some contents) :
    Safe (reassembler.accept contents).1 := by
  refine ⟨accept_sound safe.sound contents, ?_⟩
  rcases (accept_bounds read).1 with same | new
  · rw [same]
    exact safe.counted
  · rw [new]
    exact FrameGeometry.counter_lt read

end Reassembler

namespace Demux

/-! ### The steps -/

/-- Whether a frame is too short to be one, or begins with eight zeros. -/
def checkedIsPadding (frame : Bytes) : Except Breach Bool := do
  if frame.length < 8 then return true
  else
    let front ← frame.checkedBetween 0 8
    return front.all (· == 0)

/-- Takes one frame, check by check. -/
def checkedPush (demux : Demux) (frame : Bytes) : Except Breach (Demux × Delivery) := do
  if demux.isDone then return (demux, ⟨false, []⟩)
  else if frame.length < demux.geometry.frameLength then
    return ({ demux with isDone := true }, ⟨false, []⟩)
  else if ← checkedIsPadding frame then return ({ demux with isDone := true }, ⟨false, []⟩)
  else
    let channel ← Breach.outOfBounds.ensureSome (FrameField.channel? frame)
    let slot ← Breach.outOfBounds.ensureSome demux.channels[channel]?
    let known := slot.getD { channel, geometry := demux.geometry }
    let (reassembler, packets) ← known.checkedPush frame
    return (demux.store channel reassembler, ⟨true, packets⟩)

/-- Takes frames one after another, check by check. -/
def checkedPushAll (demux : Demux) : List Bytes → Except Breach (Demux × List FramedPacket)
  | [] => return (demux, [])
  | frame :: frames => do
    let (demux, delivery) ← demux.checkedPush frame
    let (demux, packets) ← demux.checkedPushAll frames
    return (demux, delivery.packets ++ packets)

/-! ### No step is a breach -/

/-- Every channel that has been made is safe. -/
structure Safe (demux : Demux) : Prop where
  geometry : ∀ channel, ∀ reassembler ∈ demux.channel? channel,
    reassembler.geometry = demux.geometry
  channels : ∀ channel, ∀ reassembler ∈ demux.channel? channel, reassembler.Safe

/-- No count of any channel has outgrown its word. -/
def Fits (demux : Demux) : Prop :=
  ∀ channel, ∀ reassembler ∈ demux.channel? channel, reassembler.stats.Fits

variable {demux : Demux} {frame : Bytes}

theorem checkedIsPadding_eq (frame : Bytes) : checkedIsPadding frame = .ok (isPadding frame) := by
  unfold checkedIsPadding isPadding
  by_cases short : frame.length < 8
  · rw [if_pos short, decide_eq_true short]
    rfl
  · rw [if_neg short, decide_eq_false short,
      Bytes.checkedBetween_eq (Nat.zero_le _) (Nat.not_lt.mp short)]
    rfl

/-- The channel of a frame has its place. -/
theorem exists_slot (demux : Demux) {owner : Nat} (inside : owner < channelCount) :
    ∃ slot, demux.channels[owner]? = some slot ∧ demux.channel? owner = slot := by
  have found : demux.channels[owner]? = some demux.channels[owner] :=
    Vector.getElem?_eq_getElem inside
  exact ⟨_, found, by rw [channel?, found, Option.join_some]⟩

/-- A frame that ends the stream is no breach. -/
theorem checkedPush_ends (isOpen : demux.isDone = false)
    (ending : ends demux.geometry frame = true) :
    demux.checkedPush frame = .ok ({ demux with isDone := true }, ⟨false, []⟩) := by
  rw [checkedPush, isOpen, if_neg Bool.false_ne_true]
  by_cases short : frame.length < demux.geometry.frameLength
  · rw [if_pos short]
    rfl
  · rw [ends, decide_eq_false short, Bool.false_or] at ending
    rw [if_neg short, checkedIsPadding_eq, ok_bind, if_pos ending]
    rfl

/-- A frame that its channel takes without a breach is taken without one. -/
theorem checkedPush_store {owner : Nat} {known next : Reassembler} {packets : List FramedPacket}
    (isOpen : demux.isDone = false) (goesOn : ends demux.geometry frame = false)
    (read : FrameField.channel? frame = some owner)
    (found : (demux.channel? owner).getD (Reassembler.fresh owner demux.geometry) = known)
    (pushed : known.checkedPush frame = .ok (next, packets)) :
    demux.checkedPush frame = .ok (demux.store owner next, ⟨true, packets⟩) := by
  obtain ⟨full, notPadding⟩ := ends_eq_false_iff.mp goesOn
  obtain ⟨slot, held, same⟩ := exists_slot demux (FrameField.channel?_lt read)
  rw [same] at found
  rw [checkedPush, isOpen, if_neg Bool.false_ne_true, if_neg (Nat.not_lt.mpr full),
    checkedIsPadding_eq, ok_bind, if_neg (Bool.eq_false_iff.mp notPadding),
    Breach.ensureSome_bind read, Breach.ensureSome_bind held]
  subst found
  exact bind_of_ok pushed _

/-- Whether or not a channel has been made, its next frame meets it safe. -/
theorem Safe.known (safe : Safe demux) (owner : Nat) :
    ((demux.channel? owner).getD (Reassembler.fresh owner demux.geometry)).geometry =
        demux.geometry ∧
      ((demux.channel? owner).getD (Reassembler.fresh owner demux.geometry)).Safe := by
  cases found : demux.channel? owner with
  | none => exact ⟨rfl, Reassembler.safe_fresh owner demux.geometry⟩
  | some reassembler =>
    exact ⟨safe.geometry owner reassembler found, safe.channels owner reassembler found⟩

/-- A safe channel in place of another leaves all channels safe. -/
theorem Safe.store (safe : Safe demux) {owner : Nat} (inside : owner < channelCount)
    {next : Reassembler} (same : next.geometry = demux.geometry) (nextSafe : next.Safe) :
    Safe (demux.store owner next) := by
  constructor
  · intro channel reassembler found
    rw [channel?_store inside] at found
    split at found
    · obtain rfl := Option.some.inj found
      exact same
    · exact safe.geometry channel reassembler found
  · intro channel reassembler found
    rw [channel?_store inside] at found
    split at found
    · obtain rfl := Option.some.inj found
      exact nextSafe
    · exact safe.channels channel reassembler found

/-- Counts that fit after a channel has grown have fitted before. -/
theorem Fits.of_store {owner : Nat} (inside : owner < channelCount) {next : Reassembler}
    (grows : ReassemblyStats.Grows
      ((demux.channel? owner).getD (Reassembler.fresh owner demux.geometry)).stats next.stats)
    (fits : (demux.store owner next).Fits) : demux.Fits ∧ next.stats.Fits := by
  have nextFits : next.stats.Fits := by
    refine fits owner next ?_
    rw [channel?_store inside, if_pos rfl]
    rfl
  refine ⟨fun channel reassembler found => ?_, nextFits⟩
  by_cases mine : owner = channel
  · subst mine
    rw [Option.mem_def.mp found] at grows
    exact nextFits.of_grows grows
  · refine fits channel reassembler ?_
    rw [channel?_store inside, if_neg mine]
    exact found

/-- **Any frame can be taken**, and keeps every channel safe. -/
theorem push_safe (safe : Safe demux) (frame : Bytes) :
    ∃ after delivery, demux.push frame = some (after, delivery) ∧
      after.geometry = demux.geometry ∧ Safe after ∧
      delivery.packets.length ≤ 1 + demux.geometry.zoneLength / 7 ∧
      (after.Fits → demux.Fits ∧
        (frame.length < bufferBound → demux.checkedPush frame = .ok (after, delivery))) := by
  by_cases isDone : demux.isDone = true
  · refine ⟨demux, ⟨false, []⟩, push_done isDone frame, rfl, safe, Nat.zero_le _,
      fun fits => ⟨fits, fun _ => ?_⟩⟩
    rw [checkedPush, if_pos isDone]
    rfl
  have isOpen := Bool.eq_false_iff.mpr isDone
  by_cases ending : ends demux.geometry frame = true
  · exact ⟨{ demux with isDone := true }, ⟨false, []⟩, push_ends ending, rfl,
      ⟨safe.geometry, safe.channels⟩, Nat.zero_le _,
      fun fits => ⟨fits, fun _ => checkedPush_ends isOpen ending⟩⟩
  have goesOn := Bool.eq_false_iff.mpr ending
  have full := (ends_eq_false_iff.mp goesOn).1
  obtain ⟨owner, readOwner⟩ := exists_owner full
  have inside := FrameField.channel?_lt readOwner
  obtain ⟨same, knownSafe⟩ := safe.known owner
  obtain ⟨contents, read⟩ := FrameGeometry.exists_contents full
  generalize found : (demux.channel? owner).getD (Reassembler.fresh owner demux.geometry) = known
    at same knownSafe
  rw [← same] at read
  have nextSame := (known.accept_same contents).2.trans same
  refine ⟨demux.store owner (known.accept contents).1, ⟨true, (known.accept contents).2⟩,
    push_eq isOpen goesOn readOwner found (Reassembler.push_eq_accept read), rfl,
    safe.store inside nextSame (Reassembler.accept_safe knownSafe read), ?_, fun fits => ?_⟩
  · rw [← same]
    exact (Reassembler.accept_bounds read).2
  · obtain ⟨before, nextFits⟩ := fits.of_store inside (found ▸ known.accept_grows contents)
    exact ⟨before, fun short => checkedPush_store isOpen goesOn readOwner found
      (Reassembler.checkedPush_eq knownSafe.sound knownSafe.counted read short nextFits)⟩

/-- Any frames can be taken, one after another, and keep every channel safe. -/
theorem pushAll_keeps (safe : Safe demux) (frames : List Bytes) :
    ∃ after emitted, demux.pushAll frames = some (after, emitted) ∧
      after.geometry = demux.geometry ∧ Safe after ∧
      (after.Fits → demux.Fits ∧ ((∀ frame ∈ frames, frame.length < bufferBound) →
        demux.checkedPushAll frames = .ok (after, emitted))) := by
  induction frames generalizing demux with
  | nil => exact ⟨demux, [], rfl, rfl, safe, fun fits => ⟨fits, fun _ => rfl⟩⟩
  | cons frame frames ih =>
    obtain ⟨middle, delivery, pushed, same, middleSafe, _, checked⟩ := push_safe safe frame
    obtain ⟨after, packets, ran, sameAfter, afterSafe, checkedRest⟩ := ih middleSafe
    refine ⟨after, delivery.packets ++ packets, ?_, sameAfter.trans same, afterSafe,
      fun fits => ?_⟩
    · simp only [pushAll, pushed, ran, Option.bind_eq_bind, Option.bind_some, Option.pure_def]
    · obtain ⟨middleFits, rest⟩ := checkedRest fits
      obtain ⟨before, first⟩ := checked middleFits
      refine ⟨before, fun short => ?_⟩
      obtain ⟨shortFirst, shortRest⟩ := List.forall_mem_cons.mp short
      exact (bind_of_ok (first shortFirst) _).trans (bind_of_ok (rest shortRest) _)

theorem safe_fresh (geometry : FrameGeometry) : Safe { geometry } where
  geometry channel reassembler found := by
    rw [channel?_fresh] at found
    contradiction
  channels channel reassembler found := by
    rw [channel?_fresh] at found
    contradiction

/-- **Any frames at all can be taken**, whatever the layout: after any others, a frame is answered,
completes no more packets than a pending one and those that fit a zone, and leaves no channel with
more pending than the longest packet, with anything pending while it waits, or with a counter out of
range. Taken check by check, as long as buffers fit the memory and counts their words, nothing is a
breach. -/
theorem pushAll_safe (geometry : FrameGeometry) (frames : List Bytes) (next : Bytes) :
    ∃ reached earlier after delivery,
      ({ geometry } : Demux).pushAll frames = some (reached, earlier) ∧
      reached.push next = some (after, delivery) ∧
      delivery.packets.length ≤ 1 + geometry.zoneLength / 7 ∧
      (∀ channel, ∀ reassembler ∈ after.channel? channel,
        reassembler.pending.length ≤ PacketField.longestPacket ∧
          reassembler.lastCounter < counterModulus ∧
          (reassembler.state = .idle → reassembler.pending = [])) ∧
      ((∀ frame ∈ frames ++ [next], frame.length < bufferBound) → after.Fits →
        ({ geometry } : Demux).checkedPushAll frames = .ok (reached, earlier) ∧
          reached.checkedPush next = .ok (after, delivery)) := by
  obtain ⟨reached, earlier, ran, same, reachedSafe, checkedAll⟩ :=
    pushAll_keeps (safe_fresh geometry) frames
  obtain ⟨after, delivery, pushed, _, afterSafe, atMost, checked⟩ := push_safe reachedSafe next
  rw [same] at atMost
  refine ⟨reached, earlier, after, delivery, ran, pushed, atMost, ?_, ?_⟩
  · intro channel reassembler found
    obtain ⟨sound, counted⟩ := afterSafe.channels channel reassembler found
    exact ⟨sound.bounded, counted, sound.idle⟩
  · intro short fits
    obtain ⟨shortAll, shortNext⟩ := List.forall_mem_append.mp short
    obtain ⟨reachedFits, last⟩ := checked fits
    exact ⟨(checkedAll reachedFits).2 shortAll, last (shortNext next (List.mem_singleton_self _))⟩

/-- A demultiplexer whose only channel has completed a packet. -/
def syncedDemux : Demux :=
  store { geometry := .sevenByteZones } 5 { (Reassembler.fresh 5 .sevenByteZones).noted 0 with
    state := .running
    stats.packets := 1 }

/-- The demultiplexer after the frame that stops this channel. -/
def stoppedDemux : Demux :=
  store syncedDemux 5 { (Reassembler.fresh 5 .sevenByteZones).noted 1 with
    stats.frames := 2
    stats.packets := 1 }

theorem fits_stoppedDemux : stoppedDemux.Fits := by
  intro channel reassembler found
  rw [stoppedDemux, channel?_store (by decide), syncedDemux, channel?_store (by decide),
    channel?_fresh] at found
  split at found
  · obtain rfl := Option.some.inj found
    decide
  · contradiction

theorem push_syncedDemux : ∃ packets, ({ geometry := .sevenByteZones } : Demux).push
    Reassembler.fullFrame = some (syncedDemux, ⟨true, packets⟩) := by
  obtain ⟨packets, pushed⟩ := Reassembler.push_fullFrame
  have goesOn : ends .sevenByteZones Reassembler.fullFrame = false := by decide
  have unseen : (({ geometry := .sevenByteZones } : Demux).channel? 5).getD
      (Reassembler.fresh 5 .sevenByteZones) = Reassembler.fresh 5 .sevenByteZones := by
    rw [channel?_fresh]
    rfl
  exact ⟨packets, push_eq rfl goesOn rfl unseen pushed⟩

theorem push_stoppedDemux :
    syncedDemux.push Reassembler.outsideFrame = some (stoppedDemux, ⟨true, []⟩) := by
  have goesOn : ends .sevenByteZones Reassembler.outsideFrame = false := by decide
  have seen : (syncedDemux.channel? 5).getD (Reassembler.fresh 5 .sevenByteZones) =
      { (Reassembler.fresh 5 .sevenByteZones).noted 0 with
        state := .running
        stats.packets := 1 } := by
    rw [syncedDemux, channel?_store (by decide), if_pos rfl]
    rfl
  exact push_eq rfl goesOn rfl seen rfl

theorem pushAll_fullFrame_safe :
    ∃ earlier,
      (∀ frame ∈ [Reassembler.fullFrame] ++ [Reassembler.outsideFrame],
        frame.length < bufferBound) ∧
      stoppedDemux.Fits ∧
      ({ geometry := .sevenByteZones } : Demux).checkedPushAll [Reassembler.fullFrame] =
        .ok (syncedDemux, earlier) ∧
      syncedDemux.checkedPush Reassembler.outsideFrame = .ok (stoppedDemux, ⟨true, []⟩) := by
  have small : ∀ frame ∈ [Reassembler.fullFrame] ++ [Reassembler.outsideFrame],
      frame.length < bufferBound := by decide
  obtain ⟨packets, first⟩ := push_syncedDemux
  have all : ({ geometry := .sevenByteZones } : Demux).pushAll [Reassembler.fullFrame] =
      some (syncedDemux, packets ++ []) := by
    simp only [pushAll, first, Option.bind_eq_bind, Option.bind_some, Option.pure_def]
  obtain ⟨reached, earlier, after, delivery, ran, pushed, _, _, checked⟩ :=
    pushAll_safe .sevenByteZones [Reassembler.fullFrame] Reassembler.outsideFrame
  obtain ⟨rfl, _⟩ := Prod.mk.inj (Option.some.inj (all.symm.trans ran))
  obtain ⟨rfl, rfl⟩ := Prod.mk.inj (Option.some.inj (push_stoppedDemux.symm.trans pushed))
  exact ⟨earlier, small, fits_stoppedDemux, checked small fits_stoppedDemux⟩

end Demux

end Downlink
