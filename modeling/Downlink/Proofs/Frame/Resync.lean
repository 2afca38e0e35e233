/-
**Falling into step again.**

Whatever a channel has been given before, it falls into step with a good run of frames: it delivers
every packet that starts in the second frame or later, byte for byte and valid, as if it had
been fresh (`run_then_carriedBy`). Before these it gives out at most

* one packet of what was pending and what the run has before its first start, and
* packets that start in the first frame, each of them valid.

A channel that waits falls into step at the first start (`pushAll_waiting`), one that expects the
first frame ends what is pending there (`pushAll_expecting`), and one that expects another frame
gives up what is pending and loses the first frame (`pushAll_feeds`).
-/

import Downlink.Proofs.Frame.RoundTrip

namespace Downlink

/-! ### Which pieces start where -/

/-- Of pieces that follow each other from a position on, those that start at a bound or after. -/
def startingFrom (bound : Nat) : Nat → List Bytes → List Bytes
  | _, [] => []
  | position, piece :: pieces =>
    if bound ≤ position then piece :: startingFrom bound (position + piece.length) pieces
    else startingFrom bound (position + piece.length) pieces

/-- Of pieces that follow each other from a position on, those that start before a bound. -/
def startingBefore (bound : Nat) : Nat → List Bytes → List Bytes
  | _, [] => []
  | position, piece :: pieces =>
    if position < bound then piece :: startingBefore bound (position + piece.length) pieces
    else startingBefore bound (position + piece.length) pieces

variable {bound position : Nat}

theorem startingFrom_of_le (after : bound ≤ position) (pieces : List Bytes) :
    startingFrom bound position pieces = pieces := by
  induction pieces generalizing position with
  | nil => rfl
  | cons piece pieces ih =>
    rw [startingFrom, if_pos after, ih (Nat.le_trans after (Nat.le_add_right _ _))]

theorem startingBefore_of_le (after : bound ≤ position) (pieces : List Bytes) :
    startingBefore bound position pieces = [] := by
  induction pieces generalizing position with
  | nil => rfl
  | cons piece pieces ih =>
    rw [startingBefore, if_neg (Nat.not_lt.mpr after),
      ih (Nat.le_trans after (Nat.le_add_right _ _))]

theorem startingBefore_append_startingFrom (bound position : Nat) (pieces : List Bytes) :
    startingBefore bound position pieces ++ startingFrom bound position pieces = pieces := by
  induction pieces generalizing position with
  | nil => rfl
  | cons piece pieces ih =>
    by_cases after : bound ≤ position
    · rw [startingBefore_of_le after, startingFrom_of_le after, List.nil_append]
    · rw [startingBefore, startingFrom, if_pos (Nat.not_le.mp after), if_neg after,
        List.cons_append, ih]

theorem startingFrom_append (bound position : Nat) (pieces others : List Bytes) :
    startingFrom bound position (pieces ++ others) =
      startingFrom bound position pieces ++
        startingFrom bound (position + pieces.flatten.length) others := by
  induction pieces generalizing position with
  | nil => rfl
  | cons piece pieces ih =>
    rw [List.cons_append, startingFrom, startingFrom, ih, List.flatten_cons, List.length_append,
      Nat.add_assoc]
    split
    · rfl
    · rfl

theorem startingFrom_eq_nil {pieces : List Bytes}
    (before : ∀ start ∈ startsFrom position pieces, start < bound) :
    startingFrom bound position pieces = [] := by
  induction pieces generalizing position with
  | nil => rfl
  | cons piece pieces ih =>
    obtain ⟨first, others⟩ := List.forall_mem_cons.mp before
    rw [startingFrom, if_neg (Nat.not_le.mpr first), ih others]

/-- What starts behind a cut are the pieces that it has not touched. -/
theorem Cut.startingFrom_eq {pieces whole rest : List Bytes} {room : Nat} {started left : Bytes}
    (cut : Cut pieces room whole started left rest) (some : ∀ piece ∈ pieces, piece ≠ [])
    (position : Nat) : startingFrom (position + room) position pieces = rest := by
  have front : startingFrom (position + room) position (whole ++ underWay started left) = [] :=
    startingFrom_eq_nil fun _ member => cut.starts_lt some member
  rw [← cut.pieces, startingFrom_append, front, cut.length_front, List.nil_append,
    startingFrom_of_le (by omega)]

/-- The pieces that start behind a bound end with the last, or there are none. -/
theorem startingFrom_concat (bound position : Nat) {packets tail : List Bytes}
    (some : ∀ packet ∈ packets, packet ≠ []) (single : tail.length ≤ 1) :
    startingFrom bound position (packets ++ tail) = startingFrom bound position packets ++ tail ∨
      startingFrom bound position (packets ++ tail) = [] ∧
        startingFrom bound position packets = [] := by
  rw [startingFrom_append]
  by_cases after : bound ≤ position + packets.flatten.length
  · exact Or.inl (by rw [startingFrom_of_le after])
  · have none : startingFrom bound position packets = [] := by
      refine startingFrom_eq_nil fun start member => ?_
      have less := lt_of_mem_startsFrom some member
      omega
    refine Or.inr ⟨?_, none⟩
    rw [none, List.nil_append]
    match tail, single with
    | [], _ => rfl
    | [piece], _ => rw [startingFrom, if_neg after, startingFrom]

/-! ### Coming into a stretch -/

/-- At most one packet, and that is made of these bytes. -/
def Leftover (emitted : List FramedPacket) (bytes : Bytes) : Prop :=
  emitted = [] ∨ ∃ packet : FramedPacket, emitted = [packet] ∧ packet.view.bytes = bytes

/-- What a channel has made of pieces that frames fed it: it waits for a piece to start still, or it
is in step with them and has delivered those that have ended. -/
inductive Joins (after : Reassembler) (emitted : List FramedPacket) (counter : Nat) (left : Bytes)
    (last : Option Bytes) (pieces rest : List Bytes) : Prop
  | waits (nothing : emitted = []) (all : rest = pieces)
  | follows {delivered : List Bytes} (delivers : Delivers emitted delivered)
    (inStep : Tracks after counter left last)
    (split : delivered ++ underWay after.pending left ++ rest = pieces)

/-- **A running channel falls into step** at the first start, whatever is pending. -/
theorem Tracks.of_boundary {reassembler : Reassembler} {counter : Nat}
    (running : reassembler.state = .running)
    (next : counter % counterModulus = reassembler.expected)
    (pointable : reassembler.geometry.Pointable) {left : Bytes}
    (short : left.length < reassembler.geometry.zoneLength)
    {pieces whole later : List Bytes} {started remains frame : Bytes} {room : Nat}
    (cut : Cut pieces room whole started remains later)
    (packets : ∀ piece ∈ pieces, IsPacket piece)
    (pointer : reassembler.geometry.firstHeaderPointer? frame = some left.length)
    (spacecraft : Nat) :
    ∃ after stale emitted, reassembler.accept ⟨left.length, counter % counterModulus,
        spacecraft, left ++ (whole.flatten ++ started)⟩ = (after, stale ++ emitted) ∧
      Leftover stale (reassembler.pending ++ left) ∧ Delivers emitted whole ∧
      Tracks after (counter + 1) remains (some frame) ∧
      whole ++ underWay after.pending remains ++ later = pieces := by
  obtain ⟨emitted, delivers, accepted⟩ :=
    Reassembler.accept_start running next pointable short (cut.splits packets) spacecraft
  obtain ⟨stats, stale, finished, atMost⟩ :=
    (reassembler.noted (counter % counterModulus)).finish_eq running spacecraft left
  have leftover : Leftover stale (reassembler.pending ++ left) :=
    atMost.imp_right fun ⟨packet, one, collected, _⟩ => ⟨packet, one, collected⟩
  rw [finished] at accepted
  exact ⟨_, stale, emitted, accepted, leftover, delivers,
    of_cut running rfl rfl cut packets (pointable.pointer_ne short pointer), cut.pieces⟩

namespace Reassembler

variable {geometry : FrameGeometry} {counter : Nat} {left left' : Bytes}
  {pieces frames rest : List Bytes} {reassembler : Reassembler}

/-- **A waiting channel falls into step at the first start.** -/
theorem pushAll_waiting (pointable : geometry.Pointable)
    (feeds : Feeds geometry counter left pieces frames left' rest)
    (packets : ∀ piece ∈ pieces, IsPacket piece) (same : reassembler.geometry = geometry)
    (idle : reassembler.state = .idle) (last : Option Bytes) :
    ∃ after emitted, reassembler.pushAll frames = some (after, emitted) ∧
      Joins after emitted (counter + frames.length) left' (frames.getLast?.or last) pieces
        rest := by
  induction feeds generalizing reassembler last with
  | done counter left pieces => exact ⟨reassembler, [], rfl, .waits rfl rfl⟩
  | @inside counter left frame left' pieces frames rest long read _ ih =>
    obtain ⟨spacecraft, contents⟩ := read.read
    subst same
    have unsynced : reassembler.accept ⟨noHeaderPointer, counter % counterModulus, spacecraft,
        left.take reassembler.geometry.zoneLength⟩ = (_, []) :=
      accept_unsynced (reception_unsynced idle)
    obtain ⟨after, emitted, ran, joins⟩ :=
      ih packets (geometry_of_accept unsynced) idle (some frame)
    refine ⟨after, emitted, pushAll_cons_silent contents unsynced ran, ?_⟩
    rw [getLast?_cons_or, add_length_cons]
    exact joins
  | @start counter left frame started remains left' pieces whole later frames rest short cut read
      others _ =>
    obtain ⟨after, emitted, delivered, ran, delivers, inStep, split, _⟩ :=
      pushAll_first pointable (.start short cut read others) short packets reassembler same idle
    refine ⟨after, emitted, ran, .follows delivers ?_ split⟩
    rw [getLast?_cons_or, add_length_cons]
    exact inStep

/-- **A channel that expects the first frame** goes on with what is pending up to the first start,
where it falls into step. -/
theorem pushAll_expecting (pointable : geometry.Pointable)
    (feeds : Feeds geometry counter left pieces frames left' rest)
    (packets : ∀ piece ∈ pieces, IsPacket piece) (same : reassembler.geometry = geometry)
    (running : reassembler.state = .running)
    (next : counter % counterModulus = reassembler.expected) (last : Option Bytes) :
    ∃ after stale emitted, reassembler.pushAll frames = some (after, stale ++ emitted) ∧
      Leftover stale (reassembler.pending ++ left) ∧
      Joins after emitted (counter + frames.length) left' (frames.getLast?.or last) pieces
        rest := by
  induction feeds generalizing reassembler last with
  | done counter left pieces => exact ⟨reassembler, [], [], rfl, Or.inl rfl, .waits rfl rfl⟩
  | @inside counter left frame left' pieces frames rest long read others ih =>
    obtain ⟨spacecraft, contents⟩ := read.read
    subst same
    have continued : reassembler.accept ⟨noHeaderPointer, counter % counterModulus, spacecraft,
          left.take reassembler.geometry.zoneLength⟩ =
        ((reassembler.noted (counter % counterModulus)).append
          (left.take reassembler.geometry.zoneLength), []) :=
      accept_continuation (reception_inside running next)
    have kept := geometry_of_accept continued
    rw [getLast?_cons_or, add_length_cons]
    by_cases fits : reassembler.pending.length +
        (left.take reassembler.geometry.zoneLength).length ≤ PacketField.longestPacket
    · rw [append_fits (reassembler.noted _) fits] at continued kept
      obtain ⟨after, stale, emitted, ran, leftover, joins⟩ := ih packets kept running
        (expected_of_lastCounter rfl) (some frame)
      refine ⟨after, stale, emitted, pushAll_cons_silent contents continued ran, ?_, joins⟩
      rw [noted_pending, List.append_assoc, List.take_append_drop] at leftover
      exact leftover
    · -- What is pending has grown too long: from here on the channel waits.
      rw [append_overflow (reassembler.noted _) (Nat.not_le.mp fits)] at continued kept
      obtain ⟨after, emitted, ran, joins⟩ :=
        pushAll_waiting pointable others packets kept rfl (some frame)
      exact ⟨after, [], emitted, pushAll_cons_silent contents continued ran, Or.inl rfl, joins⟩
  | @start counter left frame started remains left' pieces whole later frames rest short cut read
      others _ =>
    obtain ⟨spacecraft, contents⟩ := read.read
    subst same
    obtain ⟨middle, stale, first, accepted, leftover, firstDelivers, inStep, firstSplit⟩ :=
      Tracks.of_boundary running next pointable short cut packets read.pointer spacecraft
    obtain ⟨after, emitted, delivered, ran, delivers, ends, split, _⟩ :=
      pushAll_tracks pointable others (cut.forall_rest packets) (geometry_of_accept accepted) inStep
    refine ⟨after, stale, first ++ emitted, ?_, leftover, ?_⟩
    · rw [← List.append_assoc]
      exact pushAll_cons contents accepted ran
    · rw [getLast?_cons_or, add_length_cons]
      exact .follows (firstDelivers.append delivers) ends (append_of_split firstSplit split)

/-- **A channel that expects another frame** gives up what is pending and loses the frame. -/
theorem pushAll_lost (pointable : geometry.Pointable) {frame : Bytes}
    (feeds : Feeds geometry counter left pieces (frame :: frames) left' rest)
    (packets : ∀ piece ∈ pieces, IsPacket piece) (same : reassembler.geometry = geometry)
    (running : reassembler.state = .running)
    (other : counter % counterModulus ≠ reassembler.expected) :
    ∃ after emitted joined, reassembler.pushAll (frame :: frames) = some (after, emitted) ∧
      (joined = pieces ∨ joined = startingFrom geometry.zoneLength left.length pieces) ∧
      Joins after emitted (counter + (frame :: frames).length) left' (frame :: frames).getLast?
        joined rest := by
  have lost (pointer spacecraft : Nat) (zone : Bytes) : ∃ middle,
      reassembler.accept ⟨pointer, counter % counterModulus, spacecraft, zone⟩ = (middle, []) ∧
        middle.state = .idle :=
    ⟨_, accept_gap (reception_gap running other pointer), rfl⟩
  have count := Nat.add_right_comm counter frames.length 1
  rw [List.length_cons, ← Nat.add_assoc, count, getLast?_cons_eq]
  subst same
  cases feeds with
  | inside long read others =>
    obtain ⟨spacecraft, contents⟩ := read.read
    obtain ⟨middle, accepted, idle⟩ := lost noHeaderPointer spacecraft (left.take _)
    obtain ⟨after, emitted, ran, joins⟩ := pushAll_waiting pointable others packets
      (geometry_of_accept accepted) idle (some frame)
    exact ⟨after, emitted, pieces, pushAll_cons_silent contents accepted ran, Or.inl rfl, joins⟩
  | start short cut read others =>
    obtain ⟨spacecraft, contents⟩ := read.read
    obtain ⟨middle, accepted, idle⟩ := lost left.length spacecraft (left ++ _)
    obtain ⟨after, emitted, ran, joins⟩ := pushAll_waiting pointable others
      (cut.forall_rest packets) (geometry_of_accept accepted) idle (some frame)
    have behind := cut.startingFrom_eq (fun piece member => (packets piece member).ne_nil)
      left.length
    rw [Nat.add_sub_cancel' (Nat.le_of_lt short)] at behind
    exact ⟨after, emitted, _, pushAll_cons_silent contents accepted ran, Or.inr behind.symm, joins⟩

/-- **A channel in any state** falls into step with the pieces that start in the second frame or
later; with those in the first only when it has not lost that frame. -/
theorem pushAll_feeds (pointable : geometry.Pointable) {frame : Bytes}
    (feeds : Feeds geometry counter left pieces (frame :: frames) left' rest)
    (packets : ∀ piece ∈ pieces, IsPacket piece) (same : reassembler.geometry = geometry) :
    ∃ after stale emitted joined,
      reassembler.pushAll (frame :: frames) = some (after, stale ++ emitted) ∧
      Leftover stale (reassembler.pending ++ left) ∧
      (joined = pieces ∨ joined = startingFrom geometry.zoneLength left.length pieces) ∧
      Joins after emitted (counter + (frame :: frames).length) left' (frame :: frames).getLast?
        joined rest := by
  cases state : reassembler.state with
  | idle =>
    obtain ⟨after, emitted, ran, joins⟩ := pushAll_waiting pointable feeds packets same state none
    rw [Option.or_none] at joins
    exact ⟨after, [], emitted, pieces, ran, Or.inl rfl, Or.inl rfl, joins⟩
  | running =>
    by_cases next : counter % counterModulus = reassembler.expected
    · obtain ⟨after, stale, emitted, ran, leftover, joins⟩ :=
        pushAll_expecting pointable feeds packets same state next none
      rw [Option.or_none] at joins
      exact ⟨after, stale, emitted, pieces, ran, leftover, Or.inl rfl, joins⟩
    · obtain ⟨after, emitted, joined, ran, which, joins⟩ :=
        pushAll_lost pointable feeds packets same state next
      exact ⟨after, [], emitted, joined, ran, Or.inl rfl, which, joins⟩

end Reassembler

/-! ### What is delivered -/

/-- Pieces that no frame has started give out nothing. -/
theorem Joins.nil {after : Reassembler} {emitted : List FramedPacket} {counter : Nat} {left : Bytes}
    {last : Option Bytes} {rest : List Bytes}
    (joins : Joins after emitted counter left last [] rest) : emitted = [] := by
  cases joins with
  | waits nothing _ => exact nothing
  | follows delivers _ split =>
    rw [List.append_eq_nil_iff, List.append_eq_nil_iff] at split
    have length := delivers.length_eq
    rw [split.1.1, List.length_nil] at length
    exact List.length_eq_zero_iff.mp length.symm

/-- What a channel that has come into a stretch has delivered when its frames end. -/
theorem Joins.delivers {geometry : FrameGeometry} {after : Reassembler}
    {emitted : List FramedPacket} {counter first : Nat} {stretch : Stretch} {left missing : Bytes}
    {packets tail rest frames : List Bytes}
    (joins : Joins after emitted counter left frames.getLast? (packets ++ tail) rest)
    (some : frames ≠ []) (same : after.geometry = geometry) (pointable : geometry.Pointable)
    (carried : stretch.CarriedBy geometry first frames)
    (completion : stretch.Completion tail missing)
    (whole : ∀ packet ∈ packets ++ tail, IsPacket packet)
    (length : left.length + rest.flatten.length = missing.length) :
    Delivers emitted (if stretch.EndsOpen geometry.zoneLength frames.length
        then packets.dropLast else packets) ∧
      (packets ≠ [] → after.pending = if stretch.EndsOpen geometry.zoneLength frames.length
        then packets.getLast?.getD [] else stretch.trailing) := by
  cases joins with
  | waits nothing all =>
    -- No more is still to come than is missing at the end, so that there are no packets.
    have few := completion.length_le
    rw [all, List.flatten_append, List.length_append] at length
    have none : packets = [] := by
      refine eq_nil_of_flatten_eq_nil (fun packet member =>
        (whole packet (List.mem_append_left _ member)).ne_nil) (List.length_eq_zero_iff.mp ?_)
      omega
    rw [nothing, none, List.dropLast_nil, ite_self]
    exact ⟨.nil, fun some => absurd rfl some⟩
  | follows delivers inStep split =>
    obtain ⟨sameDelivered, samePending⟩ :=
      inStep.delivered_eq some same pointable carried completion whole split length
    rw [sameDelivered] at delivers
    exact ⟨delivers, fun _ => samePending⟩

namespace Stretch

/-- The packets that start in the first zone. -/
def firstPackets (stretch : Stretch) (zoneLength : Nat) : List Bytes :=
  startingBefore zoneLength stretch.lead.length stretch.packets

/-- The packets that start behind the first zone. -/
def laterPackets (stretch : Stretch) (zoneLength : Nat) : List Bytes :=
  startingFrom zoneLength stretch.lead.length stretch.packets

/-- The packets that start behind the first zone and that frames complete. -/
def completedLater (stretch : Stretch) (zoneLength count : Nat) : List Bytes :=
  if stretch.EndsOpen zoneLength count then (stretch.laterPackets zoneLength).dropLast
  else stretch.laterPackets zoneLength

/-- What is pending after the frames, when something starts behind the first zone. -/
def unfinishedLater (stretch : Stretch) (zoneLength count : Nat) : Bytes :=
  if stretch.EndsOpen zoneLength count then (stretch.laterPackets zoneLength).getLast?.getD []
  else stretch.trailing

theorem firstPackets_append_laterPackets (stretch : Stretch) (zoneLength : Nat) :
    stretch.firstPackets zoneLength ++ stretch.laterPackets zoneLength = stretch.packets :=
  startingBefore_append_startingFrom _ _ _

/-- The packets that frames complete end with those that start behind the first zone. -/
theorem exists_completed (stretch : Stretch) (zoneLength count : Nat) :
    ∃ early, early <+: stretch.firstPackets zoneLength ∧
      stretch.completed zoneLength count = early ++ stretch.completedLater zoneLength count := by
  unfold completed completedLater
  rw [← stretch.firstPackets_append_laterPackets zoneLength]
  by_cases opens : stretch.EndsOpen zoneLength count
  · rw [if_pos opens, if_pos opens]
    cases later : stretch.laterPackets zoneLength with
    | nil =>
      rw [List.append_nil, List.dropLast_nil]
      exact ⟨_, List.dropLast_prefix _, (List.append_nil _).symm⟩
    | cons packet packets =>
      rw [List.dropLast_append_of_ne_nil (List.cons_ne_nil _ _)]
      exact ⟨_, List.prefix_refl _, rfl⟩
  · rw [if_neg opens, if_neg opens]
    exact ⟨_, List.prefix_refl _, rfl⟩

/-- When something starts behind the first zone, what is pending is of that. -/
theorem unfinished_eq (stretch : Stretch) {zoneLength : Nat}
    (some : stretch.laterPackets zoneLength ≠ []) (count : Nat) :
    stretch.unfinished zoneLength count = stretch.unfinishedLater zoneLength count := by
  unfold unfinished unfinishedLater
  rw [← stretch.firstPackets_append_laterPackets zoneLength, List.getLast?_append,
    List.getLast?_eq_some_getLast some, Option.some_or]

end Stretch

namespace Joins

section

variable {geometry : FrameGeometry} {after : Reassembler} {emitted : List FramedPacket}
  {counter first : Nat} {stretch : Stretch} {left missing : Bytes} {tail rest frames : List Bytes}
  (some : frames ≠ []) (same : after.geometry = geometry) (pointable : geometry.Pointable)
  (carried : stretch.CarriedBy geometry first frames)
  (completion : stretch.Completion tail missing)
  (length : left.length + rest.flatten.length = missing.length)

include some same pointable carried completion length

/-- A channel that has lost no frame delivers packets that start in the first zone, and then those
that start behind it. -/
theorem delivers_all
    (joins : Joins after emitted counter left frames.getLast? (stretch.packets ++ tail) rest) :
    ∃ early late, emitted = early ++ late ∧
      (∃ packets, packets <+: stretch.firstPackets geometry.zoneLength ∧
        Delivers early packets) ∧
      Delivers late (stretch.completedLater geometry.zoneLength frames.length) ∧
      (stretch.laterPackets geometry.zoneLength ≠ [] →
        after.pending = stretch.unfinishedLater geometry.zoneLength frames.length) := by
  obtain ⟨delivers, pending⟩ :=
    joins.delivers some same pointable carried completion completion.whole length
  obtain ⟨packets, isFirst, split⟩ := stretch.exists_completed geometry.zoneLength frames.length
  have delivered : Delivers emitted (stretch.completed geometry.zoneLength frames.length) :=
    delivers
  rw [split] at delivered
  obtain ⟨early, late, joined, earlyDelivers, lateDelivers⟩ := delivered.split
  refine ⟨early, late, joined, ⟨packets, isFirst, earlyDelivers⟩, lateDelivers, fun later => ?_⟩
  rw [← stretch.unfinished_eq later]
  refine pending fun none => later ?_
  rw [Stretch.laterPackets, none, startingFrom]

/-- A channel that has lost the first frame delivers the packets that start behind it. -/
theorem delivers_later
    (joins : Joins after emitted counter left frames.getLast?
      (startingFrom geometry.zoneLength stretch.lead.length (stretch.packets ++ tail)) rest) :
    Delivers emitted (stretch.completedLater geometry.zoneLength frames.length) ∧
      (stretch.laterPackets geometry.zoneLength ≠ [] →
        after.pending = stretch.unfinishedLater geometry.zoneLength frames.length) := by
  have whole : ∀ packet ∈ stretch.laterPackets geometry.zoneLength ++ tail, IsPacket packet := by
    intro packet member
    refine completion.whole packet ?_
    rw [← stretch.firstPackets_append_laterPackets geometry.zoneLength, List.append_assoc]
    exact List.mem_append_right _ member
  rcases startingFrom_concat geometry.zoneLength stretch.lead.length
      (fun packet member => (stretch.whole packet member).ne_nil) completion.single
    with ends | ⟨nothing, none⟩
  · rw [ends] at joins
    exact joins.delivers some same pointable carried completion whole length
  · rw [nothing] at joins
    refine ⟨?_, absurd none⟩
    rw [joins.nil, Stretch.completedLater, Stretch.laterPackets, none, List.dropLast_nil, ite_self]
    exact .nil

end

end Joins

/-- **A channel falls into step with any good run of frames, whatever it has been given before.** -/
theorem Reassembler.run_then_carriedBy {geometry : FrameGeometry} (pointable : geometry.Pointable)
    (channel : Nat) {history : List ChannelAction}
    (complete : ∀ action ∈ history, action.Complete geometry) {stretch : Stretch} {first : Nat}
    {frames : List Bytes} (carried : stretch.CarriedBy geometry first frames) :
    ∃ before earlier after stale early late,
      (fresh channel geometry).run history = some (before, earlier) ∧
      before.pushAll frames = some (after, stale ++ early ++ late) ∧
      Leftover stale (before.pending ++ stretch.lead) ∧
      (∃ packets, packets <+: stretch.firstPackets geometry.zoneLength ∧
        Delivers early packets) ∧
      Delivers late (stretch.completedLater geometry.zoneLength frames.length) ∧
      (stretch.laterPackets geometry.zoneLength ≠ [] →
        after.pending = stretch.unfinishedLater geometry.zoneLength frames.length) := by
  obtain ⟨before, earlier, reached, same, _⟩ := sound_run channel complete
  cases frames with
  | nil =>
    have none : stretch.laterPackets geometry.zoneLength = [] := by
      rw [Stretch.laterPackets, carried.nil.1, startingFrom]
    refine ⟨before, earlier, before, [], [], [], reached, rfl, Or.inl rfl,
      ⟨[], List.nil_prefix, .nil⟩, ?_, absurd none⟩
    rw [Stretch.completedLater, none, List.dropLast_nil, ite_self]
    exact .nil
  | cons frame frames =>
    obtain ⟨tail, missing, completion⟩ := stretch.exists_completion
    obtain ⟨left', rest, feeds, length⟩ := carried.feeds completion
    obtain ⟨after, stale, emitted, joined, ran, leftover, which, joins⟩ :=
      before.pushAll_feeds pointable feeds completion.whole same
    have kept := (run_same ran).2.trans same
    have some := List.cons_ne_nil frame frames
    rcases which with rfl | rfl
    · obtain ⟨early, late, rfl, earlyDelivers, lateDelivers, pending⟩ :=
        joins.delivers_all some kept pointable carried completion length
      rw [← List.append_assoc] at ran
      exact ⟨before, earlier, after, stale, early, late, reached, ran, leftover, earlyDelivers,
        lateDelivers, pending⟩
    · obtain ⟨delivers, pending⟩ :=
        joins.delivers_later some kept pointable carried completion length
      rw [← List.append_nil stale] at ran
      exact ⟨before, earlier, after, stale, [], emitted, reached, ran, leftover,
        ⟨[], List.nil_prefix, .nil⟩, delivers, pending⟩

/-- A channel that has been reset and then given the beginning of a packet. -/
def staleHistory : List ChannelAction :=
  [.reset, .push [64, 5, 0, 0, 4, 0, 0, 0, 8, 1, 192, 9, 0, 99]]

/-- The end of a packet, two packets, and the beginning of another. -/
def Stretch.joinedLate : Stretch where
  lead := [1, 2]
  packets := [[8, 1, 192, 10, 0, 0, 17], [8, 1, 192, 11, 0, 1, 34, 35]]
  trailing := [8, 1, 192]
  whole := by decide
  beginning := ⟨[2, 0, 0, 77], List.cons_ne_nil _ _, by decide⟩

/-- Frames of channel 5 that go on where the stale beginning stands, with something else. -/
def joinedLateFrames : List Bytes :=
  [[64, 5, 0, 0, 5, 0, 0, 2, 1, 2, 8, 1, 192, 99],
    [64, 5, 0, 0, 6, 0, 0, 4, 10, 0, 0, 17, 8, 99],
    [64, 5, 0, 0, 7, 0, 7, 255, 1, 192, 11, 0, 1, 99],
    [64, 5, 0, 0, 8, 0, 0, 2, 34, 35, 8, 1, 192, 99]]

theorem Reassembler.run_then_joinedLateFrames :
    FrameGeometry.shortZones.Pointable ∧
      (∀ action ∈ staleHistory, action.Complete .shortZones) ∧
      Stretch.joinedLate.CarriedBy .shortZones 5 joinedLateFrames ∧
      ∃ before earlier after stale early late,
        (fresh 5 .shortZones).run staleHistory = some (before, earlier) ∧
        before.pushAll joinedLateFrames = some (after, stale ++ early ++ late) ∧
        Leftover stale (before.pending ++ [1, 2]) ∧
        (∃ packets, packets <+: Stretch.joinedLate.firstPackets 5 ∧ Delivers early packets) ∧
        Delivers late (Stretch.joinedLate.completedLater 5 4) ∧
        (Stretch.joinedLate.laterPackets 5 ≠ [] →
          after.pending = Stretch.joinedLate.unfinishedLater 5 4) := by
  have pointable : FrameGeometry.shortZones.Pointable := ⟨by decide, by decide⟩
  have complete : ∀ action ∈ staleHistory, action.Complete .shortZones := by decide
  have carried : Stretch.joinedLate.CarriedBy .shortZones 5 joinedLateFrames := by decide
  exact ⟨pointable, complete, carried, run_then_carriedBy pointable 5 complete carried⟩

end Downlink
