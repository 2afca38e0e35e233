/-
**Where the bytes of a packet come from.**

Whatever frames a channel is given, and wherever it is reset, the bytes of each packet that it gives
out stood together in the packet zones of frames whose counters follow each other (`LiesAt`). No two
packets share a byte, and they come out in the order in which they stood (`LieBetween`): nothing is
spliced, given out twice, or moved.

What carries this is where a channel stands (`Standing`): the pending bytes are the end of the zones
of the frames since it fell into step.

* `Placed.append`: packets that are taken from the front of these bytes lie behind the earlier ones;
* `Traced.accept`: whatever a frame makes a channel do, that is all that it does;
* `Reassembler.run_fresh_lie`: so do all frames and resets of a run.
-/

import Downlink.Proofs.Frame.RoundTrip

namespace Downlink

/-! ### The stream of a channel -/

namespace FrameGeometry

/-- What a frame adds to the stream of its channel: its packet zone, or nothing when a running
channel takes its pointer to say that it holds no packets. Pointers that say "at the front" and
"none" are never taken to say so. -/
def share (geometry : FrameGeometry) (frame : Bytes) : Bytes :=
  match geometry.contents? frame with
  | some contents =>
    if contents.pointer = geometry.idlePointer ∧ contents.pointer ≠ 0 ∧
      contents.pointer ≠ noHeaderPointer then [] else contents.zone
  | none => []

variable {geometry : FrameGeometry} {frame : Bytes} {contents : FrameContents}

theorem share_idle (read : geometry.contents? frame = some contents)
    (idle : contents.pointer = geometry.idlePointer) (start : contents.pointer ≠ 0)
    (inside : contents.pointer ≠ noHeaderPointer) : geometry.share frame = [] := by
  unfold share
  rw [read]
  exact if_pos ⟨idle, start, inside⟩

theorem share_zone (read : geometry.contents? frame = some contents)
    (holds : contents.pointer = 0 ∨ contents.pointer = noHeaderPointer ∨
      contents.pointer ≠ geometry.idlePointer) : geometry.share frame = contents.zone := by
  unfold share
  rw [read]
  refine if_neg fun ⟨idle, start, inside⟩ => ?_
  rcases holds with front | none | other
  · exact start front
  · exact inside none
  · exact other idle

end FrameGeometry

/-- What an action adds to the stream of a channel. -/
def ChannelAction.share (geometry : FrameGeometry) : ChannelAction → Bytes
  | .push frame => geometry.share frame
  | .reset => []

/-- The packet zones of all frames that a channel was given, one after another. -/
def stream (geometry : FrameGeometry) (actions : List ChannelAction) : Bytes :=
  actions.flatMap (·.share geometry)

theorem stream_append (geometry : FrameGeometry) (actions later : List ChannelAction) :
    stream geometry (actions ++ later) = stream geometry actions ++ stream geometry later :=
  List.flatMap_append

theorem stream_push (geometry : FrameGeometry) (frame : Bytes) :
    stream geometry [.push frame] = geometry.share frame :=
  List.flatMap_singleton _ _

/-- The counters of the frames follow each other from the first on. -/
def Numbered (first : Nat) (frames : List Bytes) : Prop :=
  ∀ index (inside : index < frames.length),
    FrameField.counter? frames[index] = some ((first + index) % counterModulus)

theorem Numbered.concat {first : Nat} {frames : List Bytes} {frame : Bytes}
    (numbered : Numbered first frames)
    (next : FrameField.counter? frame = some ((first + frames.length) % counterModulus)) :
    Numbered first (frames ++ [frame]) := by
  intro index inside
  by_cases before : index < frames.length
  · rw [List.getElem_append_left before]
    exact numbered index before
  · rw [List.length_append, List.length_singleton] at inside
    obtain rfl : index = frames.length := by omega
    rw [List.getElem_concat_length rfl]
    exact next

/-! ### Packets in the stream -/

/-- The bytes stand together at a place in the stream, in frames that were given one after another
and whose counters follow each other. -/
inductive LiesAt (geometry : FrameGeometry) (actions : List ChannelAction) (start : Nat)
    (bytes : Bytes) : Prop
  | within {earlier later : List ChannelAction} {block : List Bytes} {first : Nat}
    {before after : Bytes} (given : actions = earlier ++ block.map .push ++ later)
    (numbered : Numbered first block)
    (zones : stream geometry (block.map .push) = before ++ bytes ++ after)
    (place : start = (stream geometry earlier).length + before.length)

/-- The packets stand in the stream one behind the other, between two places. -/
inductive LieBetween (geometry : FrameGeometry) (actions : List ChannelAction) :
    Nat → List Bytes → Nat → Prop
  | nil {start bound : Nat} (room : start ≤ bound) : LieBetween geometry actions start [] bound
  | cons {start place bound : Nat} {packet : Bytes} {packets : List Bytes} (behind : start ≤ place)
    (lies : LiesAt geometry actions place packet)
    (others : LieBetween geometry actions (place + packet.length) packets bound) :
    LieBetween geometry actions start (packet :: packets) bound

variable {geometry : FrameGeometry} {actions : List ChannelAction}

/-- What is done later does not move what stands in the stream. -/
theorem LiesAt.append {start : Nat} {bytes : Bytes} (lies : LiesAt geometry actions start bytes)
    (more : List ChannelAction) : LiesAt geometry (actions ++ more) start bytes := by
  obtain ⟨rfl, numbered, zones, place⟩ := lies
  exact .within (List.append_assoc _ _ more) numbered zones place

namespace LieBetween

variable {start middle bound : Nat} {packets later : List Bytes}

theorem extend (lie : LieBetween geometry actions start packets bound)
    (more : List ChannelAction) : LieBetween geometry (actions ++ more) start packets bound := by
  induction lie with
  | nil room => exact .nil room
  | cons behind lies _ ih => exact .cons behind (lies.append more) ih

theorem append (first : LieBetween geometry actions start packets middle)
    (second : LieBetween geometry actions middle later bound) :
    LieBetween geometry actions start (packets ++ later) bound := by
  induction first with
  | nil room =>
    cases second with
    | nil room' => exact .nil (Nat.le_trans room room')
    | cons behind lies others => exact .cons (Nat.le_trans room behind) lies others
  | cons behind lies _ ih => exact .cons behind lies (ih second)

theorem bound_le (lie : LieBetween geometry actions start packets middle) (room : middle ≤ bound) :
    LieBetween geometry actions start packets bound := by
  have joined := lie.append (.nil room)
  rw [List.append_nil] at joined
  exact joined

/-- Packets that fill a part of a block lie one behind the other. -/
theorem of_block {earlier : List ChannelAction} {block : List Bytes} {first : Nat}
    {before after : Bytes} (numbered : Numbered first block)
    (zones : stream geometry (block.map .push) = before ++ (packets.flatten ++ after)) :
    LieBetween geometry (earlier ++ block.map .push)
      ((stream geometry earlier).length + before.length) packets
      ((stream geometry earlier).length + before.length + packets.flatten.length) := by
  induction packets generalizing before with
  | nil => exact .nil (Nat.le_refl _)
  | cons packet packets ih =>
    rw [List.flatten_cons, List.append_assoc, ← List.append_assoc before] at zones
    have lies : LiesAt geometry (earlier ++ block.map .push)
        ((stream geometry earlier).length + before.length) packet :=
      .within (List.append_nil _).symm numbered zones rfl
    have others := ih zones
    rw [List.length_append, ← Nat.add_assoc] at others
    refine .cons (Nat.le_refl _) lies ?_
    rw [List.flatten_cons, List.length_append, ← Nat.add_assoc]
    exact others

end LieBetween

/-! ### Where a channel stands -/

/-- Behind a block of frames whose counters follow each other up to before the next, and whose zones
end with the bytes. -/
inductive Standing (geometry : FrameGeometry) (history : List ChannelAction) (next : Nat)
    (bytes : Bytes) : Prop
  | behind {earlier : List ChannelAction} {block : List Bytes} {first : Nat} {before : Bytes}
    (given : history = earlier ++ block.map .push) (numbered : Numbered first block)
    (counter : next = (first + block.length) % counterModulus)
    (zones : stream geometry (block.map .push) = before ++ bytes)

namespace Standing

variable {history : List ChannelAction} {next : Nat} {bytes : Bytes} {frame : Bytes}
  {contents : FrameContents}

/-- Any frame begins a block. -/
theorem first (history : List ChannelAction) (read : geometry.contents? frame = some contents) :
    Standing geometry (history ++ [.push frame]) ((contents.counter + 1) % counterModulus)
      (geometry.share frame) := by
  have counter := (FrameGeometry.contents?_eq_some_iff.mp read).2.1
  have numbered : Numbered contents.counter [frame] := by
    intro index inside
    obtain rfl := Nat.lt_one_iff.mp inside
    rw [List.getElem_cons_zero, Nat.add_zero, Nat.mod_eq_of_lt (FrameGeometry.counter_lt read)]
    exact counter
  have zones : stream geometry ([frame].map .push) = [] ++ geometry.share frame :=
    stream_push geometry frame
  exact .behind rfl numbered rfl zones

/-- The next frame goes on with the block. -/
theorem push (standing : Standing geometry history next bytes)
    (counter : FrameField.counter? frame = some next) :
    Standing geometry (history ++ [.push frame]) ((next + 1) % counterModulus)
      (bytes ++ geometry.share frame) := by
  cases standing with
  | @behind earlier block first before given numbered same zones =>
    have given' : history ++ [.push frame] = earlier ++ (block ++ [frame]).map .push := by
      rw [given, List.map_append, List.append_assoc]
      rfl
    have zones' : stream geometry ((block ++ [frame]).map .push) =
        before ++ (bytes ++ geometry.share frame) := by
      rw [List.map_append, stream_append, zones, List.append_assoc]
      exact congrArg _ (congrArg _ (stream_push geometry frame))
    refine .behind given' (numbered.concat (same ▸ counter)) ?_ zones'
    rw [same, Nat.mod_add_mod, List.length_append, List.length_singleton, Nat.add_assoc]

/-- The end of the end is the end. -/
theorem suffix {front : Bytes} (standing : Standing geometry history next (front ++ bytes)) :
    Standing geometry history next bytes := by
  obtain ⟨given, numbered, counter, zones⟩ := standing
  rw [← List.append_assoc] at zones
  exact .behind given numbered counter zones

end Standing

/-- Packets that have been given out lie in the stream in order, and behind them are the bytes with
which the zones of a block end. -/
structure Placed (geometry : FrameGeometry) (history : List ChannelAction)
    (emitted : List FramedPacket) (next : Nat) (bytes : Bytes) : Prop where
  order : ∃ place, LieBetween geometry history 0 (emitted.map (·.view.bytes)) place ∧
    place + bytes.length ≤ (stream geometry history).length
  standing : Standing geometry history next bytes

/-- The packets that have been given out lie in the stream in order, the pending bytes are behind
them, and a running channel stands where these end. -/
structure Traced (geometry : FrameGeometry) (history : List ChannelAction)
    (reassembler : Reassembler) (emitted : List FramedPacket) : Prop where
  order : ∃ place, LieBetween geometry history 0 (emitted.map (·.view.bytes)) place ∧
    place + reassembler.pending.length ≤ (stream geometry history).length
  standing : reassembler.state = .running →
    Standing geometry history reassembler.expected reassembler.pending

section

variable {history : List ChannelAction} {emitted : List FramedPacket} {next : Nat}
  {bytes zone frame : Bytes}

theorem Traced.placed {reassembler : Reassembler}
    (traced : Traced geometry history reassembler emitted)
    (running : reassembler.state = .running) :
    Placed geometry history emitted reassembler.expected reassembler.pending :=
  ⟨traced.order, traced.standing running⟩

namespace Placed

theorem traced {reassembler : Reassembler}
    (placed : Placed geometry history emitted reassembler.expected reassembler.pending) :
    Traced geometry history reassembler emitted :=
  ⟨placed.order, fun _ => placed.standing⟩

/-- The next frame goes on with the block. -/
theorem push (placed : Placed geometry history emitted next bytes)
    (counter : FrameField.counter? frame = some next) :
    Placed geometry (history ++ [.push frame]) emitted ((next + 1) % counterModulus)
      (bytes ++ geometry.share frame) := by
  obtain ⟨place, lie, room⟩ := placed.order
  refine ⟨⟨place, lie.extend _, ?_⟩, placed.standing.push counter⟩
  rw [stream_append, stream_push, List.length_append, List.length_append]
  omega

theorem suffix {front : Bytes} (placed : Placed geometry history emitted next (front ++ bytes)) :
    Placed geometry history emitted next bytes := by
  obtain ⟨place, lie, room⟩ := placed.order
  refine ⟨⟨place, lie, ?_⟩, placed.standing.suffix⟩
  rw [List.length_append] at room
  omega

/-- Packets whose bytes come next lie behind the earlier ones. -/
theorem append {others : List FramedPacket}
    (placed : Placed geometry history emitted next
      ((others.map (·.view.bytes)).flatten ++ bytes)) :
    Placed geometry history (emitted ++ others) next bytes := by
  obtain ⟨⟨start, lie, room⟩, standing⟩ := placed
  refine ⟨?_, standing.suffix⟩
  obtain ⟨rfl, numbered, _, zones⟩ := standing
  rw [stream_append, zones] at room ⊢
  simp only [List.length_append] at room ⊢
  rw [List.map_append]
  refine ⟨_, LieBetween.append (lie.bound_le ?_) (.of_block numbered zones), ?_⟩
  · omega
  · omega

/-- A channel takes bytes that go on with what is pending, or gives up when that gets too long. -/
theorem continued {reassembler : Reassembler}
    (placed : Placed geometry history emitted reassembler.expected (reassembler.pending ++ bytes)) :
    Traced geometry history (reassembler.append bytes) emitted := by
  by_cases fits : reassembler.pending.length + bytes.length ≤ PacketField.longestPacket
  · rw [reassembler.append_fits fits]
    exact placed.traced
  · rw [reassembler.append_overflow (Nat.not_le.mp fits)]
    obtain ⟨place, lie, room⟩ := placed.order
    exact ⟨⟨place, lie, Nat.le_trans (Nat.le_add_right _ _) room⟩, fun running => by contradiction⟩

/-- At most one packet, made of the bytes that come next, lies behind the earlier ones. -/
theorem append_packet {ended : List FramedPacket}
    (placed : Placed geometry history emitted next (bytes ++ zone))
    (atMost : ended = [] ∨ ∃ packet : FramedPacket, ended = [packet] ∧ packet.view.bytes = bytes) :
    Placed geometry history (emitted ++ ended) next zone := by
  rcases atMost with rfl | ⟨packet, rfl, collected⟩
  · rw [List.append_nil]
    exact placed.suffix
  · refine append ?_
    rw [List.map_singleton, List.flatten_singleton, collected]
    exact placed

/-- A channel that takes packets from the rest of a zone, behind where it stands. -/
theorem extract (reassembler : Reassembler)
    (placed : Placed geometry history emitted reassembler.expected zone) (spacecraft : Nat) :
    Traced geometry history (reassembler.extract spacecraft zone).1
      (emitted ++ (reassembler.extract spacecraft zone).2) := by
  obtain ⟨packets, rest, others, splits, extracted, collected, _⟩ :=
    reassembler.exists_extract spacecraft zone
  rw [← splits.joined, ← collected] at placed
  rw [extracted]
  exact placed.append.traced

end Placed

end

namespace Traced

variable {history : List ChannelAction} {reassembler after : Reassembler}
  {emitted : List FramedPacket} {frame : Bytes} {contents : FrameContents}

/-- A channel that gives nothing out and has no more pending. -/
theorem of_idle (traced : Traced geometry history reassembler emitted)
    (more : List ChannelAction) (idle : after.state = .idle)
    (less : after.pending.length ≤ reassembler.pending.length) :
    Traced geometry (history ++ more) after emitted := by
  obtain ⟨place, lie, room⟩ := traced.order
  refine ⟨⟨place, lie.extend more, ?_⟩, fun running => ?_⟩
  · rw [stream_append, List.length_append]
    omega
  · rw [idle] at running
    contradiction

/-- A channel that falls into step. -/
theorem placed_first (traced : Traced geometry history reassembler emitted)
    (read : geometry.contents? frame = some contents) :
    Placed geometry (history ++ [.push frame]) emitted ((contents.counter + 1) % counterModulus)
      (geometry.share frame) := by
  obtain ⟨place, lie, room⟩ := traced.order
  refine ⟨⟨place, lie.extend _, ?_⟩, .first history read⟩
  rw [stream_append, stream_push, List.length_append]
  omega

/-- **A frame keeps a channel traced.** -/
theorem accept (traced : Traced geometry history reassembler emitted)
    (same : reassembler.geometry = geometry) (read : geometry.contents? frame = some contents) :
    Traced geometry (history ++ [.push frame]) (reassembler.accept contents).1
      (emitted ++ (reassembler.accept contents).2) := by
  subst same
  have means := reassembler.reception_means contents.counter contents.pointer
  have counter := (FrameGeometry.contents?_eq_some_iff.mp read).2.1
  -- A running channel that expects the frame goes on with the block.
  have onward (running : reassembler.state = .running)
      (next : contents.counter = reassembler.expected) :
      Placed reassembler.geometry (history ++ [.push frame]) emitted
        (reassembler.noted contents.counter).expected
        (reassembler.pending ++ reassembler.geometry.share frame) := by
    have placed := (traced.placed running).push (next ▸ counter)
    rw [← next] at placed
    exact placed
  cases reception : reassembler.reception contents.counter contents.pointer with
  | unsynced =>
    rw [reception] at means
    rw [Reassembler.accept_unsynced reception, List.append_nil]
    exact traced.of_idle _ means.1 (Nat.le_refl _)
  | gap skipped =>
    rw [Reassembler.accept_gap reception, List.append_nil]
    exact traced.of_idle _ rfl (Nat.zero_le _)
  | outside =>
    rw [Reassembler.accept_outside reception, List.append_nil]
    exact traced.of_idle _ rfl (Nat.zero_le _)
  | idle =>
    rw [reception] at means
    obtain ⟨pointer, inside, state⟩ := means
    rw [Reassembler.accept_idle reception, List.append_nil]
    rcases state with idle | ⟨running, next, start⟩
    · exact traced.of_idle _ idle (Nat.le_refl _)
    · have placed := onward running next
      rw [FrameGeometry.share_idle read pointer start inside, List.append_nil] at placed
      rw [if_pos running]
      exact ⟨placed.order, fun _ => placed.standing⟩
  | continuation =>
    rw [reception] at means
    obtain ⟨running, next, pointer⟩ := means
    rw [Reassembler.accept_continuation reception, List.append_nil]
    have placed := onward running next
    rw [FrameGeometry.share_zone read (Or.inr (Or.inl pointer))] at placed
    exact placed.continued
  | sync offset =>
    rw [reception] at means
    obtain ⟨_, _, _, notIdle, _⟩ := means
    rw [Reassembler.accept_sync reception]
    have placed := traced.placed_first read
    rw [FrameGeometry.share_zone read (Or.inr (Or.inr notIdle)),
      ← List.take_append_drop offset contents.zone] at placed
    exact placed.suffix.extract _ contents.spacecraft
  | boundary offset =>
    rw [reception] at means
    obtain ⟨running, next, rfl, pointer⟩ := means
    rw [Reassembler.accept_boundary reception, ← List.append_assoc]
    have placed := onward running next
    rw [FrameGeometry.share_zone read (pointer.imp_right fun other => Or.inr other.2.1),
      ← List.take_append_drop contents.pointer contents.zone, ← List.append_assoc] at placed
    obtain ⟨stats, ended, finished, atMost⟩ := (reassembler.noted contents.counter).finish_eq
      running contents.spacecraft (contents.zone.take contents.pointer)
    have behind := placed.append_packet
      (atMost.imp_right fun ⟨packet, one, collected, _⟩ => ⟨packet, one, collected⟩)
    rw [finished]
    exact behind.extract { reassembler.noted contents.counter with pending := [], stats }
      contents.spacecraft

/-- **A reset keeps a channel traced.** -/
theorem reset (traced : Traced geometry history reassembler emitted) :
    Traced geometry (history ++ [.reset]) reassembler.reset emitted :=
  traced.of_idle _ rfl (Nat.zero_le _)

theorem fresh (channel : Nat) (geometry : FrameGeometry) :
    Traced geometry [] (Reassembler.fresh channel geometry) [] where
  order := ⟨0, .nil (Nat.le_refl _), Nat.le_refl _⟩
  standing running := by contradiction

end Traced

/-- **Nothing is spliced, given out twice, or moved**: whatever a channel is given, the bytes of its
packets stood together in frames whose counters follow each other, one packet behind the other, and
a packet is called valid exactly when it has the length that its header declares. -/
theorem Reassembler.run_fresh_lie {geometry : FrameGeometry} (channel : Nat)
    {actions : List ChannelAction} (complete : ∀ action ∈ actions, action.Complete geometry) :
    ∃ after emitted, (fresh channel geometry).run actions = some (after, emitted) ∧
      LieBetween geometry actions 0 (emitted.map (·.view.bytes))
        (stream geometry actions).length ∧
      ∀ packet ∈ emitted, PacketField.headerLength ≤ packet.view.bytes.length ∧
        (packet.valid = true ↔
          PacketField.totalLength? packet.view.bytes = some packet.view.bytes.length) := by
  obtain ⟨after, emitted, ran, _, traced, judged⟩ := run_preserves
    (fun history reassembler emitted => Traced geometry history reassembler emitted ∧
      ∀ packet ∈ emitted, packet.valid = decide (IsPacket packet.view.bytes))
    (fun history reassembler emitted frame contents same read ⟨traced, judged⟩ =>
      ⟨traced.accept same read, List.forall_mem_append.mpr ⟨judged, fun packet member =>
        (reassembler.accept_marked contents packet member).valid⟩⟩)
    (fun _ _ _ ⟨traced, judged⟩ => ⟨traced.reset, judged⟩) complete [] (fresh channel geometry) []
    rfl ⟨.fresh channel geometry, List.forall_mem_nil _⟩
  obtain ⟨place, lie, room⟩ := traced.order
  have bound := lie.bound_le (Nat.le_trans (Nat.le_add_right _ _) room)
  refine ⟨after, emitted, ran, bound, fun packet member => ?_⟩
  rw [judged packet member, decide_eq_true_iff]
  exact ⟨packet.view.headerLength_le, Iff.rfl⟩

/-- A packet that goes on behind a frame without packets and ends too early, and another after a
reset. -/
def tangledActions : List ChannelAction :=
  [.push [64, 5, 0, 0, 4, 0, 0, 0, 8, 1, 192, 9, 0, 99],
    .push [64, 5, 0, 0, 5, 0, 7, 254, 9, 9, 9, 9, 9, 99],
    .push [64, 5, 0, 0, 6, 0, 0, 3, 5, 1, 2, 8, 1, 99],
    .reset,
    .push [64, 5, 0, 0, 7, 0, 0, 1, 6, 8, 1, 192, 2, 99],
    .push [64, 5, 0, 0, 8, 0, 0, 3, 0, 0, 77, 8, 1, 99]]

theorem Reassembler.run_tangledActions_lie :
    (∀ action ∈ tangledActions, action.Complete .shortZones) ∧
      ∃ after emitted, (fresh 5 .shortZones).run tangledActions = some (after, emitted) ∧
        LieBetween .shortZones tangledActions 0 (emitted.map (·.view.bytes))
          (stream .shortZones tangledActions).length ∧
        ∀ packet ∈ emitted, PacketField.headerLength ≤ packet.view.bytes.length ∧
          (packet.valid = true ↔
            PacketField.totalLength? packet.view.bytes = some packet.view.bytes.length) := by
  have complete : ∀ action ∈ tangledActions, action.Complete .shortZones := by decide
  exact ⟨complete, run_fresh_lie 5 complete⟩

end Downlink
