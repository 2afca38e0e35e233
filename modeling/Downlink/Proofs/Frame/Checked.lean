/-
**Taking a frame check by check.**

`Reassembler.checkedPush` takes a frame as a machine does, with every check of a sum, a difference
or a place on its way: it reads the fields, compares the counter with the expected one, adds the
pointer to the start of the zone, and moves a cursor from there. It has the answer of
`Reassembler.push`, and meets no breach, as long as the counts fit:

* `checkedSync_eq`, `checkedRun_eq`: what a waiting and what a running channel does with a frame;
* `checkedPush_eq`: what a channel does with a frame.
-/

import Downlink.Proofs.Frame.Cursor

namespace Downlink

/-- Frame counters are 32-bit while they are calculated with. -/
def counterBound : Nat := 1 <<< 32

namespace Reassembler

open ReassemblyStats (counts)

/-! ### The steps -/

/-- Ends the pending packet with the bytes before the start of the next one. -/
def checkedFinish (reassembler : Reassembler) (frame : Bytes) (spacecraft start header : Nat) :
    Except Breach (Reassembler × List FramedPacket) := do
  if reassembler.pending.isEmpty then
    let discarded := reassembler.stats.bytesDiscarded
    Breach.overflow.ensure (start ≤ header)
    Breach.overflow.ensure (discarded + (header - start) < sizeBound)
    return ({ reassembler with stats.bytesDiscarded := discarded + (header - start) }, [])
  else
    let bytes ← frame.checkedBetween start header
    let (extended, kept) ← reassembler.checkedAppend bytes
    if kept then extended.checkedEmit spacecraft
    else return ({ extended with state := .running }, [])

/-- Looks for the start of a packet. -/
def checkedSync (reassembler : Reassembler) (frame : Bytes) (spacecraft counter pointer : Nat) :
    Except Breach (Reassembler × List FramedPacket) := do
  let geometry := reassembler.geometry
  let stats := reassembler.stats
  if pointer = noHeaderPointer then
    Breach.overflow.ensure (stats.droppedFrames + 1 < sizeBound)
    return ({ reassembler with stats.droppedFrames := stats.droppedFrames + 1 }, [])
  else if pointer = geometry.idlePointer then
    Breach.overflow.ensure (stats.idleFrames + 1 < sizeBound)
    return ({ reassembler with stats.idleFrames := stats.idleFrames + 1 }, [])
  else if geometry.zoneLength ≤ pointer then
    Breach.overflow.ensure (stats.droppedFrames + 1 < sizeBound)
    return ({ reassembler with stats.droppedFrames := stats.droppedFrames + 1 }, [])
  else
    Breach.overflow.ensure (geometry.zoneStart + pointer < sizeBound)
    checkedExtract frame spacecraft geometry.zoneEnd
      { reassembler with state := .running, lastCounter := counter, pending := [] }
      (geometry.zoneStart + pointer)

/-- Takes a frame whose counter is the expected one. -/
def checkedFollow (reassembler : Reassembler) (frame : Bytes) (spacecraft pointer : Nat) :
    Except Breach (Reassembler × List FramedPacket) := do
  let geometry := reassembler.geometry
  let stats := reassembler.stats
  if pointer = 0 then
    let (emptied, packets) ←
      if reassembler.pending.isEmpty then pure (reassembler, [])
      else reassembler.checkedEmit spacecraft
    let (held, others) ←
      checkedExtract frame spacecraft geometry.zoneEnd emptied geometry.zoneStart
    return (held, packets ++ others)
  else if pointer = noHeaderPointer then
    let zone ← frame.checkedBetween geometry.zoneStart geometry.zoneEnd
    let (held, _) ← reassembler.checkedAppend zone
    return (held, [])
  else if pointer = geometry.idlePointer then
    Breach.overflow.ensure (stats.idleFrames + 1 < sizeBound)
    return ({ reassembler with stats.idleFrames := stats.idleFrames + 1 }, [])
  else if pointer < geometry.zoneLength then
    let header := geometry.zoneStart + pointer
    Breach.overflow.ensure (header < sizeBound)
    let (emptied, packets) ←
      reassembler.checkedFinish frame spacecraft geometry.zoneStart header
    let (held, others) ← checkedExtract frame spacecraft geometry.zoneEnd emptied header
    return (held, packets ++ others)
  else
    return (← reassembler.checkedReset, [])

/-- Compares the counter of a frame with the expected one. -/
def checkedRun (reassembler : Reassembler) (frame : Bytes) (spacecraft counter pointer : Nat) :
    Except Breach (Reassembler × List FramedPacket) := do
  let stats := reassembler.stats
  Breach.overflow.ensure (reassembler.lastCounter + 1 < counterBound)
  let expected := (reassembler.lastCounter + 1) % counterModulus
  if counter ≠ expected then
    Breach.overflow.ensure (counter % counterModulus + counterModulus < counterBound)
    Breach.overflow.ensure
      (expected % counterModulus ≤ counter % counterModulus + counterModulus)
    let skipped := skippedFrames expected counter
    Breach.overflow.ensure (stats.gaps + 1 < sizeBound)
    Breach.overflow.ensure (stats.framesSkipped + skipped < sizeBound)
    let counted := { reassembler with
      stats.gaps := stats.gaps + 1
      stats.framesSkipped := stats.framesSkipped + skipped }
    return (← counted.checkedReset, [])
  else
    let accepted := { reassembler with lastCounter := counter }
    accepted.checkedFollow frame spacecraft pointer

/-- Takes the next frame of the channel. -/
def checkedPush (reassembler : Reassembler) (frame : Bytes) :
    Except Breach (Reassembler × List FramedPacket) := do
  Breach.overflow.ensure (reassembler.geometry.headerLength + 1 < sizeBound)
  let pointer ← Breach.outOfBounds.ensureSome (reassembler.geometry.firstHeaderPointer? frame)
  let counter ← Breach.outOfBounds.ensureSome (FrameField.counter? frame)
  let spacecraft ← Breach.outOfBounds.ensureSome (FrameField.spacecraft? frame)
  Breach.overflow.ensure (reassembler.stats.frames + 1 < sizeBound)
  let counted := { reassembler with stats.frames := reassembler.stats.frames + 1 }
  match reassembler.state with
  | .idle => counted.checkedSync frame spacecraft counter pointer
  | .running => counted.checkedRun frame spacecraft counter pointer

variable {reassembler : Reassembler} {spacecraft : Nat}

/-! ### Before a start -/

theorem checkedFinish_eq {frame : Bytes} {start header : Nat} (forward : start ≤ header)
    (inside : header ≤ frame.length) (short : frame.length < bufferBound)
    (running : reassembler.state = .running)
    (bounded : reassembler.pending.length ≤ PacketField.longestPacket)
    (fits : (reassembler.finish spacecraft (frame.between start header)).1.stats.Fits) :
    reassembler.checkedFinish frame spacecraft start header =
      .ok (reassembler.finish spacecraft (frame.between start header)) := by
  have length : (frame.between start header).length = header - start :=
    Bytes.length_between inside
  unfold checkedFinish
  by_cases nothing : reassembler.pending = []
  · rw [finish_nothing _ _ _ nothing, length] at fits ⊢
    have discarded := fits ReassemblyStats.bytesDiscarded (by simp [counts])
    rw [if_pos (List.isEmpty_iff.mpr nothing), Breach.ensure_bind forward,
      Breach.ensure_bind discarded]
    rfl
  · have small : (frame.between start header).length < bufferBound := by omega
    rw [if_neg (mt List.isEmpty_iff.mp nothing), Bytes.checkedBetween_eq forward inside, ok_bind]
    by_cases long : PacketField.longestPacket <
        reassembler.pending.length + (frame.between start header).length
    · have appended := checkedAppend_eq bounded small (by
        rw [finish_overflow _ _ running nothing long] at fits
        rw [append_overflow _ long]
        exact fits)
      rw [appended, ok_bind, decide_eq_false (Nat.not_le.mpr long), append_overflow _ long,
        finish_overflow _ _ running nothing long]
      simp only [reset, running]
      rfl
    · have room := Nat.not_lt.mp long
      rw [finish_fits _ _ running nothing room] at fits ⊢
      have appended := checkedAppend_eq bounded small (by
        rw [append_fits _ room]
        exact fits.of_grows (emit_grows _ _))
      rw [appended, ok_bind, decide_eq_true room, append_fits _ room]
      exact checkedEmit_eq fits

/-! ### Taking a frame -/

variable {frame : Bytes} {counter pointer : Nat}
  (inside : reassembler.geometry.zoneEnd ≤ frame.length) (short : frame.length < bufferBound)
  (fits : (reassembler.receive spacecraft counter
    (frame.between reassembler.geometry.zoneStart reassembler.geometry.zoneEnd)
    (reassembler.reception counter pointer)).1.stats.Fits)
include inside short fits

/-- A waiting channel takes any frame without a breach. -/
theorem checkedSync_eq (idle : reassembler.state = .idle) :
    reassembler.checkedSync frame spacecraft counter pointer =
      .ok (reassembler.receive spacecraft counter
        (frame.between reassembler.geometry.zoneStart reassembler.geometry.zoneEnd)
        (reassembler.reception counter pointer)) := by
  have means := reassembler.reception_means counter pointer
  have waits : reassembler.state ≠ .running := by
    rw [idle]
    decide
  unfold checkedSync
  cases reception : reassembler.reception counter pointer with
  | unsynced =>
    rw [reception] at means fits
    have dropped := fits ReassemblyStats.droppedFrames (by simp [counts])
    by_cases none : pointer = noHeaderPointer
    · rw [if_pos none]
      exact Breach.ensure_bind dropped _
    · obtain ⟨notIdle, far⟩ := means.2.resolve_left none
      rw [if_neg none, if_neg notIdle, if_pos far]
      exact Breach.ensure_bind dropped _
  | idle =>
    rw [reception] at means fits
    obtain ⟨marked, notNone, _⟩ := means
    have idleFrames := fits ReassemblyStats.idleFrames (by simp [counts])
    rw [if_neg notNone, if_pos marked, receive, if_neg waits]
    exact Breach.ensure_bind idleFrames _
  | sync offset =>
    rw [reception] at means fits
    obtain ⟨_, rfl, notNone, notIdle, near⟩ := means
    have forward : reassembler.geometry.zoneStart + offset ≤ reassembler.geometry.zoneEnd :=
      Nat.add_le_add_left (Nat.le_of_lt near) _
    have small : reassembler.geometry.zoneStart + offset < sizeBound := by
      have bounds : bufferBound < sizeBound := by decide
      omega
    rw [receive, Bytes.drop_between] at fits ⊢
    rw [if_neg notNone, if_neg notIdle, if_neg (Nat.not_le.mpr near), Breach.ensure_bind small]
    exact checkedExtract_eq inside short spacecraft forward rfl fits
  | gap skipped =>
    rw [reception] at means
    exact absurd means.1 waits
  | outside =>
    rw [reception] at means
    exact absurd means.1 waits
  | continuation =>
    rw [reception] at means
    exact absurd means.1 waits
  | boundary offset =>
    rw [reception] at means
    exact absurd means.1 waits

omit inside short fits in
/-- The expected counter leads on. -/
theorem checkedRun_next (counted : reassembler.lastCounter < counterModulus)
    (next : counter = reassembler.expected) :
    reassembler.checkedRun frame spacecraft counter pointer =
      { reassembler with lastCounter := counter }.checkedFollow frame spacecraft pointer := by
  have small : reassembler.lastCounter + 1 < counterBound :=
    Nat.lt_of_le_of_lt counted (by decide)
  rw [checkedRun, Breach.ensure_bind small]
  exact if_neg (not_not_intro next)

omit inside short in
/-- Any other counter stops the channel. -/
theorem checkedRun_gap (counted : reassembler.lastCounter < counterModulus) {skipped : Nat}
    (reception : reassembler.reception counter pointer = .gap skipped) :
    reassembler.checkedRun frame spacecraft counter pointer =
      .ok (reassembler.receive spacecraft counter
        (frame.between reassembler.geometry.zoneStart reassembler.geometry.zoneEnd)
        (.gap skipped)) := by
  have means := reassembler.reception_means counter pointer
  rw [reception] at means fits
  obtain ⟨_, other, rfl⟩ := means
  have gaps := fits ReassemblyStats.gaps (by simp [counts])
  have framesSkipped := fits ReassemblyStats.framesSkipped (by simp [counts])
  have small : reassembler.lastCounter + 1 < counterBound :=
    Nat.lt_of_le_of_lt counted (by decide)
  have twice : counterModulus + counterModulus < counterBound := by decide
  have low := Nat.mod_lt counter (show 0 < counterModulus by decide)
  have lowExpected := Nat.mod_lt ((reassembler.lastCounter + 1) % counterModulus)
    (show 0 < counterModulus by decide)
  rw [checkedRun, Breach.ensure_bind small]
  refine (if_pos other).trans ?_
  -- With the modulus added first, the difference of the counters stays above zero.
  rw [Breach.ensure_bind (by omega), Breach.ensure_bind (by omega)]
  refine (Breach.ensure_bind gaps _).trans ((Breach.ensure_bind framesSkipped _).trans ?_)
  exact bind_of_ok (checkedReset_eq fits) _

omit inside short fits in
/-- Where nothing stands before the start, what is pending is given out as it is. -/
theorem finish_nil (running : reassembler.state = .running)
    (bounded : reassembler.pending.length ≤ PacketField.longestPacket) :
    reassembler.finish spacecraft [] =
      if reassembler.pending.isEmpty then (reassembler, []) else reassembler.emit spacecraft := by
  by_cases nothing : reassembler.pending = []
  · rw [finish_nothing _ _ _ nothing, if_pos (List.isEmpty_iff.mpr nothing)]
    rfl
  · have room : reassembler.pending.length + ([] : Bytes).length ≤ PacketField.longestPacket :=
      bounded
    rw [finish_fits _ _ running nothing room, if_neg (mt List.isEmpty_iff.mp nothing),
      List.append_nil]

omit fits in
/-- A start in the zone is met without a breach. -/
theorem checkedFollow_boundary (running : reassembler.state = .running)
    (bounded : reassembler.pending.length ≤ PacketField.longestPacket)
    (start : pointer = 0 ∨ pointer ≠ noHeaderPointer ∧
      pointer ≠ reassembler.geometry.idlePointer ∧ pointer < reassembler.geometry.zoneLength)
    (forward : reassembler.geometry.zoneStart + pointer ≤ reassembler.geometry.zoneEnd)
    {finished extracted : Reassembler × List FramedPacket}
    (finishes : reassembler.finish spacecraft (frame.between reassembler.geometry.zoneStart
      (reassembler.geometry.zoneStart + pointer)) = finished)
    (extracts : finished.1.extract spacecraft (frame.between
      (reassembler.geometry.zoneStart + pointer) reassembler.geometry.zoneEnd) = extracted)
    (fits : extracted.1.stats.Fits) :
    reassembler.checkedFollow frame spacecraft pointer =
      .ok (extracted.1, finished.2 ++ extracted.2) := by
  subst extracts
  have emptied : finished.1.pending = [] := by
    obtain ⟨stats, ended, empties, _⟩ := finish_eq reassembler running spacecraft
      (frame.between reassembler.geometry.zoneStart (reassembler.geometry.zoneStart + pointer))
    rw [← finishes, empties]
  have before := fits.of_grows (extract_grows _ _ _)
  have rest := checkedExtract_eq inside short spacecraft forward emptied fits
  unfold checkedFollow
  -- A start at the very beginning takes a way of its own, without a slice before it.
  by_cases first : pointer = 0
  · subst first
    rw [Nat.add_zero, Bytes.between_self, finish_nil running bounded] at finishes
    rw [if_pos rfl]
    by_cases nothing : reassembler.pending.isEmpty = true
    · rw [if_pos nothing] at finishes ⊢
      subst finishes
      exact bind_of_ok rest _
    · rw [if_neg nothing] at finishes ⊢
      subst finishes
      exact (bind_of_ok (checkedEmit_eq before) _).trans (bind_of_ok rest _)
  · obtain ⟨notNone, notIdle, near⟩ := start.resolve_left first
    have small : reassembler.geometry.zoneStart + pointer < sizeBound := by
      have bounds : bufferBound < sizeBound := by decide
      omega
    subst finishes
    rw [if_neg first, if_neg notNone, if_neg notIdle, if_pos near]
    refine (Breach.ensure_bind small _).trans ?_
    have ends := checkedFinish_eq (Nat.le_add_right _ _) (Nat.le_trans forward inside) short running
      bounded before
    exact (bind_of_ok ends _).trans (bind_of_ok rest _)

/-- A running channel takes any frame without a breach. -/
theorem checkedRun_eq (running : reassembler.state = .running)
    (bounded : reassembler.pending.length ≤ PacketField.longestPacket)
    (counted : reassembler.lastCounter < counterModulus) :
    reassembler.checkedRun frame spacecraft counter pointer =
      .ok (reassembler.receive spacecraft counter
        (frame.between reassembler.geometry.zoneStart reassembler.geometry.zoneEnd)
        (reassembler.reception counter pointer)) := by
  have means := reassembler.reception_means counter pointer
  have runs : reassembler.state ≠ .idle := by
    rw [running]
    decide
  cases reception : reassembler.reception counter pointer with
  | unsynced =>
    rw [reception] at means
    exact absurd means.1 runs
  | sync offset =>
    rw [reception] at means
    exact absurd means.1 runs
  | gap skipped =>
    exact checkedRun_gap fits counted reception
  | idle =>
    rw [reception] at means fits
    obtain ⟨marked, notNone, state⟩ := means
    obtain ⟨_, next, later⟩ := state.resolve_left runs
    have idleFrames := fits ReassemblyStats.idleFrames (by simp [counts])
    rw [checkedRun_next counted next, checkedFollow, if_neg later, if_neg notNone, if_pos marked,
      receive, if_pos running]
    exact Breach.ensure_bind idleFrames _
  | outside =>
    rw [reception] at means fits
    obtain ⟨_, next, notNone, notIdle, far⟩ := means
    have later : pointer ≠ 0 := by
      have positive := reassembler.geometry.zone_pos
      omega
    rw [checkedRun_next counted next, checkedFollow, if_neg later, if_neg notNone, if_neg notIdle,
      if_neg (Nat.not_lt.mpr far)]
    exact bind_of_ok (checkedReset_eq fits) _
  | continuation =>
    rw [reception] at means fits
    obtain ⟨_, next, none⟩ := means
    have later : pointer ≠ 0 := by
      rw [none]
      decide
    have forward : reassembler.geometry.zoneStart ≤ reassembler.geometry.zoneEnd :=
      Nat.le_add_right _ _
    have small : (frame.between reassembler.geometry.zoneStart
        reassembler.geometry.zoneEnd).length < bufferBound := by
      rw [Bytes.length_between inside]
      omega
    rw [checkedRun_next counted next, checkedFollow, if_neg later, if_pos none,
      Bytes.checkedBetween_eq forward inside, ok_bind]
    refine bind_of_ok (checkedAppend_eq ?_ small fits) _
    exact bounded
  | boundary offset =>
    rw [reception] at means fits
    obtain ⟨_, next, rfl, start⟩ := means
    rw [checkedRun_next counted next]
    have near : offset < reassembler.geometry.zoneLength := by
      rcases start with rfl | ⟨_, _, near⟩
      · exact reassembler.geometry.zone_pos
      · exact near
    have forward : reassembler.geometry.zoneStart + offset ≤ reassembler.geometry.zoneEnd :=
      Nat.add_le_add_left (Nat.le_of_lt near) _
    rw [receive, Bytes.take_between _ forward, Bytes.drop_between] at fits ⊢
    refine checkedFollow_boundary ?_ short ?_ ?_ ?_ ?_ rfl rfl fits
    · exact inside
    · exact running
    · exact bounded
    · exact start
    · exact forward

omit inside short fits

variable {contents : FrameContents}

/-- The zone of a frame lies between its start and its end. -/
theorem zone_between (read : reassembler.geometry.contents? frame = some contents) :
    reassembler.geometry.zoneEnd ≤ frame.length ∧ contents.zone =
      frame.between reassembler.geometry.zoneStart reassembler.geometry.zoneEnd := by
  have zone := (FrameGeometry.contents?_eq_some_iff.mp read).2.2.2
  rw [FrameGeometry.zone?, Bytes.slice?] at zone
  split at zone
  · rename_i inside
    refine ⟨inside, ?_⟩
    rw [Bytes.between, FrameGeometry.zoneEnd, Nat.add_sub_cancel_left]
    exact (Option.some.inj zone).symm
  · contradiction

/-- **No step of taking a frame is a breach** as long as the counts fit: the frame is taken as it is
in one go. -/
theorem checkedPush_eq (sound : Sound reassembler)
    (counted : reassembler.lastCounter < counterModulus)
    (read : reassembler.geometry.contents? frame = some contents)
    (short : frame.length < bufferBound) (fits : (reassembler.accept contents).1.stats.Fits) :
    reassembler.checkedPush frame = .ok (reassembler.accept contents) := by
  obtain ⟨inside, zone⟩ := zone_between read
  obtain ⟨readPointer, readCounter, readSpacecraft, _⟩ :=
    FrameGeometry.contents?_eq_some_iff.mp read
  have small : reassembler.geometry.headerLength + 1 < sizeBound := by
    have pointerField := reassembler.geometry.pointer_le
    have bounds : bufferBound < sizeBound := by decide
    unfold FrameGeometry.zoneEnd at inside
    omega
  have countedFits := fits.of_grows (receive_grows { reassembler with
    stats.frames := reassembler.stats.frames + 1 } _ _ _ _)
  have frames := countedFits ReassemblyStats.frames (by simp [counts])
  rw [accept, zone] at fits ⊢
  rw [checkedPush, Breach.ensure_bind small, Breach.ensureSome_bind readPointer,
    Breach.ensureSome_bind readCounter, Breach.ensureSome_bind readSpacecraft]
  refine (Breach.ensure_bind frames _).trans ?_
  dsimp only
  split
  · rename_i idle
    refine checkedSync_eq ?_ short fits ?_
    · exact inside
    · exact idle
  · rename_i running
    refine checkedRun_eq ?_ short fits ?_ ?_ ?_
    · exact inside
    · exact running
    · exact sound.bounded
    · exact counted

end Reassembler

end Downlink
