/-
**Every byte is accounted for.**

The bytes that a channel takes in (`Reassembler.intake`) come out in packets, are counted as
discarded, or are pending: the books are balanced (`Balanced`) over every step, hence over every run
of frames and resets. So are the counts of frames and packets, and that of mismatches: each is an
invalid packet that was given out, or a pending one that was dropped because it had no whole header
(`Reassembler.fragments`).

* `Balanced.trans`: the books of two steps are added up;
* `accept_balanced`: a frame balances, whatever it makes the channel do;
* `Reassembler.run_fresh_balanced`: a run from the first frame on balances.
-/

import Downlink.Proofs.Frame.Run

namespace Downlink

/-- How many bytes were collected for packets, valid or not. -/
def collected : List FramedPacket → Nat
  | [] => 0
  | packet :: packets => packet.view.bytes.length + collected packets

theorem collected_append (packets others : List FramedPacket) :
    collected (packets ++ others) = collected packets + collected others := by
  induction packets with
  | nil => exact (Nat.zero_add _).symm
  | cons packet packets ih =>
    rw [List.cons_append, collected, collected, ih, Nat.add_assoc]

theorem collected_singleton (packet : FramedPacket) :
    collected [packet] = packet.view.bytes.length :=
  Nat.add_zero _

theorem collected_eq_length_flatten (packets : List FramedPacket) :
    collected packets = (packets.map (·.view.bytes)).flatten.length := by
  induction packets with
  | nil => rfl
  | cons packet packets ih =>
    rw [collected, ih, List.map_cons, List.flatten_cons, List.length_append]

theorem FrameGeometry.pointer_lt {geometry : FrameGeometry} {frame : Bytes}
    {contents : FrameContents} (read : geometry.contents? frame = some contents) :
    contents.pointer < 0x800 := by
  obtain ⟨field, _, masked⟩ := Option.map_eq_some_iff.mp (contents?_eq_some_iff.mp read).1
  rw [← masked]
  exact Nat.mod_lt _ (by decide)

/-- Packets that are not as long as they declare. -/
def invalid (packets : List FramedPacket) : Nat :=
  packets.countP (!·.valid)

theorem invalid_append (packets others : List FramedPacket) :
    invalid (packets ++ others) = invalid packets + invalid others :=
  List.countP_append

namespace Reassembler

/-! ### What a channel takes in -/

/-- So many bytes more would make the pending packet longer than any. -/
def Overflows (reassembler : Reassembler) (count : Nat) : Prop :=
  PacketField.longestPacket < reassembler.pending.length + count

instance (reassembler : Reassembler) (count : Nat) : Decidable (reassembler.Overflows count) :=
  inferInstanceAs (Decidable (_ < _))

/-- How many bytes of a frame's zone a channel takes in. -/
def intake (reassembler : Reassembler) (contents : FrameContents) : Nat :=
  let geometry := reassembler.geometry
  match reassembler.state with
  | .idle =>
    if contents.pointer = noHeaderPointer ∨ contents.pointer = geometry.idlePointer ∨
      geometry.zoneLength ≤ contents.pointer then 0
    else geometry.zoneLength - contents.pointer
  | .running =>
    if contents.counter ≠ reassembler.expected then 0
    else if contents.pointer = 0 then geometry.zoneLength
    else if contents.pointer = noHeaderPointer then
      if reassembler.Overflows geometry.zoneLength then 0 else geometry.zoneLength
    else if contents.pointer = geometry.idlePointer ∨ geometry.zoneLength ≤ contents.pointer then 0
    else if reassembler.Overflows contents.pointer then geometry.zoneLength - contents.pointer
    else geometry.zoneLength

/-- How many pending packets a frame ends before they have a whole header. -/
def fragments (reassembler : Reassembler) (contents : FrameContents) : Nat :=
  if reassembler.state = .running ∧ contents.counter = reassembler.expected ∧
      (contents.pointer = 0 ∨ contents.pointer ≠ noHeaderPointer ∧
        contents.pointer ≠ reassembler.geometry.idlePointer ∧
        contents.pointer < reassembler.geometry.zoneLength) ∧
      reassembler.pending ≠ [] ∧
      reassembler.pending.length + contents.pointer < PacketField.headerLength then 1
  else 0

/-- A measure of the frames that a channel is given, added up over a run. -/
def total (measure : Reassembler → FrameContents → Nat) (reassembler : Reassembler) :
    List ChannelAction → Nat
  | [] => 0
  | action :: actions =>
    let measured := match action with
      | .push frame => ((reassembler.geometry.contents? frame).map (measure reassembler)).getD 0
      | .reset => 0
    match reassembler.act action with
    | some (next, _) => measured + next.total measure actions
    | none => measured

end Reassembler

/-- The number of frames that a channel is given. -/
def pushes (actions : List ChannelAction) : Nat :=
  actions.countP fun action => action matches .push _

/-! ### Balanced books -/

/-- Between two states, so many frames were given and so many bytes taken in, and so many pending
packets were dropped because they had no whole header; all that is in the counts, in the packets
that were given out, or pending. -/
structure Balanced (before after : Reassembler) (emitted : List FramedPacket)
    (frames bytes fragments : Nat) : Prop where
  bytes : collected emitted + after.stats.bytesDiscarded + after.pending.length =
    before.stats.bytesDiscarded + before.pending.length + bytes
  frames : after.stats.frames = before.stats.frames + frames
  packets : after.stats.packets = before.stats.packets + emitted.length
  mismatches : after.stats.lengthMismatches =
    before.stats.lengthMismatches + invalid emitted + fragments

namespace Balanced

variable {before middle after : Reassembler} {emitted others : List FramedPacket}
  {frames bytes fragments frames' bytes' fragments' : Nat}

theorem refl (reassembler : Reassembler) : Balanced reassembler reassembler [] 0 0 0 :=
  ⟨by simp [collected], rfl, rfl, rfl⟩

/-- The books of two steps are added up. -/
theorem trans (first : Balanced before middle emitted frames bytes fragments)
    (second : Balanced middle after others frames' bytes' fragments') :
    Balanced before after (emitted ++ others) (frames + frames') (bytes + bytes')
      (fragments + fragments') := by
  obtain ⟨firstBytes, firstFrames, firstPackets, firstMismatches⟩ := first
  obtain ⟨secondBytes, secondFrames, secondPackets, secondMismatches⟩ := second
  refine ⟨?_, ?_, ?_, ?_⟩
  · rw [collected_append]
    omega
  · omega
  · rw [List.length_append]
    omega
  · rw [invalid_append]
    omega

/-- A step behind one that only counts the frame. -/
theorem behind (first : Balanced before middle [] frames 0 0)
    (second : Balanced middle after emitted 0 bytes fragments) :
    Balanced before after emitted frames bytes fragments := by
  have both := first.trans second
  rw [List.nil_append, Nat.add_zero, Nat.zero_add, Nat.zero_add] at both
  exact both

end Balanced

namespace Reassembler

variable (reassembler : Reassembler) (spacecraft : Nat)

/-! ### The steps -/

theorem reset_balanced : Balanced reassembler reassembler.reset [] 0 0 0 := by
  refine ⟨?_, rfl, rfl, rfl⟩
  simp [reset, collected]

theorem noted_balanced (counter : Nat) :
    Balanced reassembler (reassembler.noted counter) [] 1 0 0 :=
  ⟨by simp [noted, collected], rfl, rfl, rfl⟩

theorem emit_balanced :
    Balanced reassembler (reassembler.emit spacecraft).1 (reassembler.emit spacecraft).2 0 0
      (if reassembler.pending.length < PacketField.headerLength then 1 else 0) := by
  by_cases short : reassembler.pending.length < PacketField.headerLength
  · rw [emit_short _ _ short, if_pos short]
    refine ⟨?_, rfl, rfl, rfl⟩
    simp [collected]
  · obtain ⟨packet, emitted, held, marked⟩ :=
      reassembler.emit_long spacecraft (Nat.not_lt.mp short)
    rw [emitted, if_neg short]
    refine ⟨?_, rfl, rfl, ?_⟩
    · rw [collected_singleton, held]
      simp only [List.length_nil]
      omega
    · have judged := marked.valid
      rw [held] at judged
      by_cases whole : IsPacket reassembler.pending
      · simp [invalid, judged, whole]
      · simp [invalid, judged, whole]

theorem append_balanced (bytes : Bytes) :
    Balanced reassembler (reassembler.append bytes) [] 0
      (if reassembler.Overflows bytes.length then 0 else bytes.length) 0 := by
  by_cases long : reassembler.Overflows bytes.length
  · rw [append_overflow _ long, if_pos long]
    exact reassembler.reset_balanced
  · rw [append_fits _ (Nat.not_lt.mp long), if_neg long]
    refine ⟨?_, rfl, rfl, rfl⟩
    simp only [collected, List.length_append]
    omega

theorem extract_balanced (nothing : reassembler.pending = []) (zone : Bytes) :
    Balanced reassembler (reassembler.extract spacecraft zone).1
      (reassembler.extract spacecraft zone).2 0 zone.length 0 := by
  obtain ⟨packets, rest, emitted, splits, extracted, held, marked⟩ :=
    reassembler.exists_extract spacecraft zone
  rw [extracted]
  have valid : invalid emitted = 0 := by
    refine List.countP_eq_zero.mpr fun packet member => ?_
    have whole := splits.whole packet.view.bytes (held ▸ List.mem_map_of_mem member)
    simp [(marked packet member).valid, whole]
  refine ⟨?_, rfl, ?_, ?_⟩
  · rw [collected_eq_length_flatten, held, nothing, ← splits.joined, List.length_append]
    simp only [List.length_nil]
    omega
  · rw [← held, List.length_map]
  · rw [valid]
    rfl

/-- The bytes before a start are taken in, unless they make a pending packet too long. -/
theorem finish_balanced (running : reassembler.state = .running) (bytes : Bytes) :
    Balanced reassembler (reassembler.finish spacecraft bytes).1
      (reassembler.finish spacecraft bytes).2 0
      (if reassembler.pending ≠ [] ∧ reassembler.Overflows bytes.length then 0 else bytes.length)
      (if reassembler.pending ≠ [] ∧
          reassembler.pending.length + bytes.length < PacketField.headerLength then 1 else 0) := by
  by_cases nothing : reassembler.pending = []
  · rw [finish_nothing _ _ _ nothing, if_neg fun both => both.1 nothing,
      if_neg fun both => both.1 nothing]
    refine ⟨?_, rfl, rfl, rfl⟩
    simp only [collected]
    omega
  by_cases long : reassembler.Overflows bytes.length
  · have notShort : ¬ (reassembler.pending ≠ [] ∧
        reassembler.pending.length + bytes.length < PacketField.headerLength) := fun both =>
      Nat.lt_asymm long (Nat.lt_of_lt_of_le both.2 (by decide))
    rw [finish_overflow _ _ running nothing long, if_pos ⟨nothing, long⟩, if_neg notShort]
    refine ⟨?_, rfl, rfl, rfl⟩
    simp [collected]
  · have appended := reassembler.append_balanced bytes
    rw [if_neg long, append_fits _ (Nat.not_lt.mp long)] at appended
    have emitted := emit_balanced { reassembler with pending := reassembler.pending ++ bytes }
      spacecraft
    rw [List.length_append] at emitted
    rw [finish_fits _ _ running nothing (Nat.not_lt.mp long), if_neg fun both => long both.2]
    simpa only [ne_eq, nothing, not_false_eq_true, true_and, List.nil_append, Nat.zero_add,
      Nat.add_zero] using appended.trans emitted

variable {reassembler} {frame : Bytes} {contents : FrameContents}

/-- Nothing is taken in of a frame whose zone is not looked at. -/
theorem intake_of_unread
    (unread : (reassembler.reception contents.counter contents.pointer).readsZone = false) :
    reassembler.intake contents = 0 ∧ reassembler.fragments contents = 0 := by
  have means := reassembler.reception_means contents.counter contents.pointer
  cases reception : reassembler.reception contents.counter contents.pointer with
  | unsynced =>
    rw [reception] at means
    obtain ⟨idle, pointer⟩ := means
    rcases pointer with none | ⟨_, far⟩
    · simp [intake, fragments, idle, none]
    · simp [intake, fragments, idle, far]
  | idle =>
    rw [reception] at means
    obtain ⟨pointer, inside, state⟩ := means
    rcases state with idle | ⟨running, next, start⟩
    · simp [intake, fragments, idle, pointer]
    · rw [pointer] at inside start
      simp [intake, fragments, running, next, pointer, inside, start]
  | gap skipped =>
    rw [reception] at means
    obtain ⟨running, other, _⟩ := means
    simp [intake, fragments, running, other]
  | outside =>
    rw [reception] at means
    obtain ⟨running, next, inside, _, far⟩ := means
    have start : contents.pointer ≠ 0 := by
      have := reassembler.geometry.zone_pos
      omega
    simp [intake, fragments, running, next, inside, far, start, Nat.not_lt.mpr far]
  | sync offset => simp [reception, Reception.readsZone] at unread
  | continuation => simp [reception, Reception.readsZone] at unread
  | boundary offset => simp [reception, Reception.readsZone] at unread

theorem intake_sync {offset : Nat}
    (reception : reassembler.reception contents.counter contents.pointer = .sync offset) :
    reassembler.intake contents = reassembler.geometry.zoneLength - offset ∧
      reassembler.fragments contents = 0 := by
  have means := reassembler.reception_means contents.counter contents.pointer
  rw [reception] at means
  obtain ⟨idle, rfl, inside, notIdle, near⟩ := means
  simp [intake, fragments, idle, inside, notIdle, Nat.not_le.mpr near]

theorem intake_continuation
    (reception : reassembler.reception contents.counter contents.pointer = .continuation) :
    reassembler.intake contents =
        (if reassembler.Overflows reassembler.geometry.zoneLength then 0
          else reassembler.geometry.zoneLength) ∧
      reassembler.fragments contents = 0 := by
  have means := reassembler.reception_means contents.counter contents.pointer
  rw [reception] at means
  obtain ⟨running, next, pointer⟩ := means
  have start : noHeaderPointer ≠ 0 := by decide
  simp [intake, fragments, running, next, pointer, start]

/-- A start that ends the pending packet lies in the zone. -/
theorem lt_of_boundary {offset : Nat}
    (reception : reassembler.reception contents.counter contents.pointer = .boundary offset) :
    offset < reassembler.geometry.zoneLength := by
  have means := reassembler.reception_means contents.counter contents.pointer
  have positive := reassembler.geometry.zone_pos
  rw [reception] at means
  obtain ⟨_, _, rfl, start | ⟨_, _, near⟩⟩ := means
  · omega
  · exact near

/-- The bytes before a start are taken in, unless they make a pending packet too long, and those
behind it always. -/
theorem intake_boundary {offset : Nat} (sound : Sound reassembler)
    (read : reassembler.geometry.contents? frame = some contents)
    (reception : reassembler.reception contents.counter contents.pointer = .boundary offset) :
    reassembler.intake contents =
        (if reassembler.pending ≠ [] ∧ reassembler.Overflows offset then 0 else offset) +
          (reassembler.geometry.zoneLength - offset) ∧
      reassembler.fragments contents =
        if reassembler.pending ≠ [] ∧
          reassembler.pending.length + offset < PacketField.headerLength then 1 else 0 := by
  have means := reassembler.reception_means contents.counter contents.pointer
  have near := lt_of_boundary reception
  have pointerBound := FrameGeometry.pointer_lt read
  rw [reception] at means
  obtain ⟨running, next, rfl, start⟩ := means
  -- A pointer is too small to make up a packet that is too long.
  have something (long : reassembler.Overflows contents.pointer) : reassembler.pending ≠ [] := by
    intro nothing
    rw [Overflows, nothing, List.length_nil, Nat.zero_add] at long
    exact Nat.lt_asymm long (Nat.lt_trans pointerBound (by decide))
  constructor
  · by_cases long : reassembler.Overflows contents.pointer
    · have notFirst : contents.pointer ≠ 0 := by
        intro first
        rw [first] at long
        exact Nat.not_lt.mpr sound.bounded long
      obtain ⟨inside, notIdle, _⟩ := start.resolve_left notFirst
      rw [if_pos ⟨something long, long⟩, Nat.zero_add]
      simp [intake, running, next, notFirst, inside, notIdle, Nat.not_le.mpr near, long]
    · rw [if_neg fun both => long both.2, Nat.add_sub_cancel' (Nat.le_of_lt near)]
      rcases start with first | ⟨inside, notIdle, _⟩
      · simp [intake, running, next, first]
      · simp [intake, running, next, inside, notIdle, Nat.not_le.mpr near, long]
  · simp [fragments, running, next, start]

/-- **A frame balances**, whatever it makes the channel do. -/
theorem accept_balanced (sound : Sound reassembler)
    (read : reassembler.geometry.contents? frame = some contents) :
    Balanced reassembler (reassembler.accept contents).1 (reassembler.accept contents).2 1
      (reassembler.intake contents) (reassembler.fragments contents) := by
  have means := reassembler.reception_means contents.counter contents.pointer
  have zone := FrameGeometry.length_zone read
  cases reception : reassembler.reception contents.counter contents.pointer with
  | unsynced =>
    obtain ⟨none, whole⟩ := intake_of_unread (congrArg Reception.readsZone reception)
    rw [accept_unsynced reception, none, whole]
    exact ⟨by simp [collected], rfl, rfl, rfl⟩
  | idle =>
    obtain ⟨none, whole⟩ := intake_of_unread (congrArg Reception.readsZone reception)
    rw [accept_idle reception, none, whole]
    exact ⟨by simp [collected], rfl, rfl, rfl⟩
  | gap skipped =>
    obtain ⟨none, whole⟩ := intake_of_unread (congrArg Reception.readsZone reception)
    rw [accept_gap reception, none, whole]
    exact ⟨by simp [collected, reset], rfl, rfl, rfl⟩
  | outside =>
    obtain ⟨none, whole⟩ := intake_of_unread (congrArg Reception.readsZone reception)
    rw [accept_outside reception, none, whole]
    exact (reassembler.noted_balanced _).trans (reset_balanced _)
  | sync offset =>
    rw [reception] at means
    obtain ⟨taken, whole⟩ := intake_sync reception
    have nothing := sound.idle means.1
    have noted : Balanced reassembler
        { reassembler.noted contents.counter with state := .running, pending := [] } [] 1 0 0 :=
      ⟨by simp [collected, noted, nothing], rfl, rfl, rfl⟩
    rw [accept_sync reception, taken, whole, ← zone, ← List.length_drop]
    exact noted.behind (extract_balanced _ contents.spacecraft rfl (contents.zone.drop offset))
  | continuation =>
    obtain ⟨taken, whole⟩ := intake_continuation reception
    rw [accept_continuation reception, taken, whole, ← zone]
    exact (reassembler.noted_balanced _).behind (append_balanced _ contents.zone)
  | boundary offset =>
    rw [reception] at means
    obtain ⟨taken, whole⟩ := intake_boundary sound read reception
    have front : (contents.zone.take offset).length = offset := by
      rw [List.length_take, zone]
      exact Nat.min_eq_left (Nat.le_of_lt (lt_of_boundary reception))
    obtain ⟨stats, ended, finished, _⟩ := (reassembler.noted contents.counter).finish_eq means.1
      contents.spacecraft (contents.zone.take offset)
    have before := (reassembler.noted contents.counter).finish_balanced contents.spacecraft means.1
      (contents.zone.take offset)
    rw [finished, front] at before
    have later := extract_balanced { reassembler.noted contents.counter with pending := [], stats }
      contents.spacecraft rfl (contents.zone.drop offset)
    rw [List.length_drop, zone] at later
    rw [accept_boundary reception, finished, taken, whole]
    exact (reassembler.noted_balanced _).behind (before.trans later)

/-! ### Runs -/

theorem total_push (measure : Reassembler → FrameContents → Nat)
    (read : reassembler.geometry.contents? frame = some contents) (actions : List ChannelAction) :
    reassembler.total measure (.push frame :: actions) =
      measure reassembler contents + (reassembler.accept contents).1.total measure actions := by
  have acted : reassembler.act (.push frame) = some (reassembler.accept contents) :=
    push_eq_accept read
  rw [total, acted, read]
  rfl

theorem total_reset (measure : Reassembler → FrameContents → Nat) (actions : List ChannelAction) :
    reassembler.total measure (.reset :: actions) = reassembler.reset.total measure actions :=
  Nat.zero_add _

/-- A run balances, from whatever state it starts. -/
theorem run_balanced (sound : Sound reassembler) {actions : List ChannelAction}
    (complete : ∀ action ∈ actions, action.Complete reassembler.geometry) :
    ∃ after emitted, reassembler.run actions = some (after, emitted) ∧
      Balanced reassembler after emitted (pushes actions) (reassembler.total intake actions)
        (reassembler.total fragments actions) := by
  induction actions generalizing reassembler with
  | nil => exact ⟨reassembler, [], rfl, .refl reassembler⟩
  | cons action actions ih =>
    obtain ⟨first, others⟩ := List.forall_mem_cons.mp complete
    cases action with
    | push frame =>
      obtain ⟨contents, read⟩ := FrameGeometry.exists_contents first
      have acted : reassembler.act (.push frame) = some (reassembler.accept contents) :=
        push_eq_accept read
      have same := (reassembler.accept_same contents).2
      obtain ⟨after, emitted, ran, balanced⟩ := ih (accept_sound sound contents) (same ▸ others)
      have both := (accept_balanced sound read).trans balanced
      have counted : pushes (.push frame :: actions) = 1 + pushes actions :=
        (List.countP_cons_of_pos rfl).trans (Nat.add_comm _ _)
      rw [total_push intake read, total_push fragments read, counted]
      exact ⟨after, _, run_cons acted ran, both⟩
    | reset =>
      have acted : reassembler.act .reset = some (reassembler.reset, []) := rfl
      obtain ⟨after, emitted, ran, balanced⟩ := ih (sound_reset reassembler) others
      have both := reassembler.reset_balanced.trans balanced
      rw [Nat.zero_add, Nat.zero_add, Nat.zero_add] at both
      rw [total_reset, total_reset]
      exact ⟨after, _, run_cons acted ran, both⟩

/-- **Every byte is accounted for**: what a new channel has taken in has come out in packets, is
counted as discarded, or is pending; and it has counted all frames, all packets, and all packets
whose length is wrong or that were dropped without a whole header. -/
theorem run_fresh_balanced {geometry : FrameGeometry} (channel : Nat)
    {actions : List ChannelAction} (complete : ∀ action ∈ actions, action.Complete geometry) :
    ∃ after emitted, (fresh channel geometry).run actions = some (after, emitted) ∧
      collected emitted + after.stats.bytesDiscarded + after.pending.length =
        (fresh channel geometry).total intake actions ∧
      after.stats.frames = pushes actions ∧
      after.stats.packets = emitted.length ∧
      after.stats.lengthMismatches =
        invalid emitted + (fresh channel geometry).total fragments actions := by
  have ofChannel : ∀ action ∈ actions, action.Complete (fresh channel geometry).geometry := complete
  obtain ⟨after, emitted, ran, bytes, frames, packets, mismatches⟩ :=
    run_balanced (sound_fresh channel geometry) ofChannel
  simp only [fresh, List.length_nil, Nat.zero_add] at bytes frames packets mismatches
  exact ⟨after, emitted, ran, bytes, frames, packets, mismatches⟩

end Reassembler

/-- A whole packet, bytes before a start that continue nothing, the end of a packet without a whole
header, a reset, and a packet that ends too early. -/
def wastefulActions : List ChannelAction :=
  [.push [64, 5, 0, 0, 0, 0, 0, 0, 8, 1, 192, 0, 0, 0, 17],
    .push [64, 5, 0, 0, 1, 0, 0, 4, 1, 2, 3, 4, 8, 1, 192],
    .push [64, 5, 0, 0, 2, 0, 0, 2, 0, 1, 8, 1, 192, 2, 0],
    .reset,
    .push [64, 5, 0, 0, 9, 0, 0, 3, 0, 0, 0, 8, 1, 192, 3],
    .push [64, 5, 0, 0, 10, 0, 0, 5, 0, 9, 1, 2, 3, 8, 1]]

theorem Reassembler.run_wastefulActions_balanced :
    (∀ action ∈ wastefulActions, action.Complete .sevenByteZones) ∧
      ∃ after emitted, (fresh 5 .sevenByteZones).run wastefulActions = some (after, emitted) ∧
        collected emitted + after.stats.bytesDiscarded + after.pending.length =
          (fresh 5 .sevenByteZones).total intake wastefulActions ∧
        after.stats.frames = pushes wastefulActions ∧
        after.stats.packets = emitted.length ∧
        after.stats.lengthMismatches =
          invalid emitted + (fresh 5 .sevenByteZones).total fragments wastefulActions := by
  have complete : ∀ action ∈ wastefulActions, action.Complete .sevenByteZones := by decide
  exact ⟨complete, run_fresh_balanced 5 complete⟩

end Downlink
