/-
**Packets laid into frames.**

A stretch of a packet stream may begin in the middle of a packet and end in the middle of another
(`Stretch`). Frames carry it (`Stretch.CarriedBy`) when its bytes fill their packet zones, their
counters follow each other, and every pointer says where in its zone the first packet starts; all
other bytes of the frames may be anything.

* `startsFrom`, `pointerAt`: where packets start, and what a pointer has to say about it;
* `Stretch.exists_completion`: the packet in the middle of which a stretch ends can be completed;
* `Stretch.CarriedBy.last_pointer`: what the last pointer says about the end of a stretch.
-/

import Downlink.Proofs.Frame.Contents
import Downlink.Proofs.Packet.Split

namespace Downlink

/-! ### Stretches -/

/-- A stretch of a packet stream. -/
structure Stretch where
  /-- What comes before the first packet that starts. -/
  lead : Bytes
  packets : List Bytes
  /-- The beginning of a packet that does not end. -/
  trailing : Bytes
  whole : ∀ packet ∈ packets, IsPacket packet
  beginning : IsBeginning trailing

/-- Where pieces that follow each other from a position on start. -/
def startsFrom : Nat → List Bytes → List Nat
  | _, [] => []
  | position, piece :: pieces => position :: startsFrom (position + piece.length) pieces

/-- How far into the zone at a position the first start in it lies. -/
def pointerAt (starts : List Nat) (position length : Nat) : Nat :=
  match starts.find? fun start => position ≤ start ∧ start < position + length with
  | some start => start - position
  | none => noHeaderPointer

/-- A frame of full length with this counter, pointer and packet zone. -/
structure IsFrame (geometry : FrameGeometry) (counter pointer : Nat) (zone frame : Bytes) :
    Prop where
  complete : geometry.frameLength ≤ frame.length
  counter : FrameField.counter? frame = some counter
  pointer : geometry.firstHeaderPointer? frame = some pointer
  zone : geometry.zone? frame = some zone

namespace Stretch

/-- All that starts in a stretch: its packets, and the trailing beginning if there is one. -/
def pieces (stretch : Stretch) : List Bytes :=
  if stretch.trailing = [] then stretch.packets else stretch.packets ++ [stretch.trailing]

/-- The bytes of a stretch. -/
def bytes (stretch : Stretch) : Bytes :=
  stretch.lead ++ stretch.packets.flatten ++ stretch.trailing

/-- Where in its bytes something starts. -/
def starts (stretch : Stretch) : List Nat :=
  startsFrom stretch.lead.length stretch.pieces

/-- Frames, the first with this counter, carry a stretch in their packet zones. -/
structure CarriedBy (stretch : Stretch) (geometry : FrameGeometry) (first : Nat)
    (frames : List Bytes) : Prop where
  filled : stretch.bytes.length = frames.length * geometry.zoneLength
  frame : ∀ index (inside : index < frames.length),
    IsFrame geometry ((first + index) % counterModulus)
      (pointerAt stretch.starts (index * geometry.zoneLength) geometry.zoneLength)
      ((stretch.bytes.drop (index * geometry.zoneLength)).take geometry.zoneLength) frames[index]

/-- Nothing shows that the last packet has ended: it fills the last zone, in which none starts. -/
def EndsOpen (stretch : Stretch) (zoneLength count : Nat) : Prop :=
  stretch.trailing = [] ∧ ∀ start ∈ stretch.starts, start < (count - 1) * zoneLength

instance (stretch : Stretch) (zoneLength count : Nat) :
    Decidable (stretch.EndsOpen zoneLength count) :=
  inferInstanceAs (Decidable (_ ∧ _))

instance (geometry : FrameGeometry) (counter pointer : Nat) (zone frame : Bytes) :
    Decidable (IsFrame geometry counter pointer zone frame) :=
  decidable_of_iff (geometry.frameLength ≤ frame.length ∧ FrameField.counter? frame = some counter ∧
      geometry.firstHeaderPointer? frame = some pointer ∧ geometry.zone? frame = some zone)
    ⟨fun ⟨complete, counter, pointer, zone⟩ => ⟨complete, counter, pointer, zone⟩,
      fun ⟨complete, counter, pointer, zone⟩ => ⟨complete, counter, pointer, zone⟩⟩

instance (stretch : Stretch) (geometry : FrameGeometry) (first : Nat) (frames : List Bytes) :
    Decidable (stretch.CarriedBy geometry first frames) :=
  decidable_of_iff (stretch.bytes.length = frames.length * geometry.zoneLength ∧
      ∀ index (inside : index < frames.length),
        IsFrame geometry ((first + index) % counterModulus)
          (pointerAt stretch.starts (index * geometry.zoneLength) geometry.zoneLength)
          ((stretch.bytes.drop (index * geometry.zoneLength)).take geometry.zoneLength)
          frames[index])
    ⟨fun ⟨filled, frame⟩ => ⟨filled, frame⟩, fun ⟨filled, frame⟩ => ⟨filled, frame⟩⟩

end Stretch

/-! ### Starts -/

theorem startsFrom_append (position : Nat) (pieces others : List Bytes) :
    startsFrom position (pieces ++ others) =
      startsFrom position pieces ++ startsFrom (position + pieces.flatten.length) others := by
  induction pieces generalizing position with
  | nil => rfl
  | cons piece pieces ih =>
    simp only [List.cons_append, startsFrom, ih, List.flatten_cons, List.length_append,
      Nat.add_assoc]

theorem startsFrom_add (position length : Nat) (pieces : List Bytes) :
    startsFrom (position + length) pieces = (startsFrom position pieces).map (· + length) := by
  induction pieces generalizing position with
  | nil => rfl
  | cons piece pieces ih =>
    rw [startsFrom, startsFrom, List.map_cons, ← ih, Nat.add_right_comm]

theorem le_of_mem_startsFrom {position start : Nat} {pieces : List Bytes}
    (member : start ∈ startsFrom position pieces) : position ≤ start := by
  induction pieces generalizing position with
  | nil => exact absurd member List.not_mem_nil
  | cons piece pieces ih =>
    rcases List.mem_cons.mp member with same | later
    · exact Nat.le_of_eq same.symm
    · exact Nat.le_trans (Nat.le_add_right _ _) (ih later)

/-- Pieces with bytes start before the end of the last. -/
theorem lt_of_mem_startsFrom {position start : Nat} {pieces : List Bytes}
    (some : ∀ piece ∈ pieces, piece ≠ []) (member : start ∈ startsFrom position pieces) :
    start < position + pieces.flatten.length := by
  induction pieces generalizing position with
  | nil => exact absurd member List.not_mem_nil
  | cons piece pieces ih =>
    obtain ⟨first, others⟩ := List.forall_mem_cons.mp some
    have positive := List.length_pos_iff.mpr first
    rw [List.flatten_cons, List.length_append]
    rcases List.mem_cons.mp member with same | later
    · omega
    · have bound := ih others later
      omega

theorem eq_nil_of_flatten_eq_nil {pieces : List Bytes} (some : ∀ piece ∈ pieces, piece ≠ [])
    (none : pieces.flatten = []) : pieces = [] :=
  List.eq_nil_iff_forall_not_mem.mpr fun piece member =>
    some piece member (List.flatten_eq_nil_iff.mp none piece member)

/-- Starts before the zone do not matter to its pointer. -/
theorem pointerAt_append {before starts : List Nat} {position : Nat} (length : Nat)
    (passed : ∀ start ∈ before, start < position) :
    pointerAt (before ++ starts) position length = pointerAt starts position length := by
  have none : before.find? (fun start => position ≤ start ∧ start < position + length) = none := by
    rw [List.find?_eq_none]
    intro start member
    have := passed start member
    simp only [decide_eq_true_eq]
    omega
  unfold pointerAt
  rw [List.find?_append, none, Option.none_or]

/-- A pointer is counted from its zone. -/
theorem pointerAt_add (starts : List Nat) (position length : Nat) :
    pointerAt (starts.map (· + length)) (position + length) length =
      pointerAt starts position length := by
  have moved : ((fun start => decide (position + length ≤ start ∧
        start < position + length + length)) ∘ (· + length)) =
      fun start => decide (position ≤ start ∧ start < position + length) := by
    funext start
    simp only [Function.comp_apply, decide_eq_decide]
    omega
  unfold pointerAt
  rw [List.find?_map, moved]
  cases starts.find? _ with
  | none => rfl
  | some start => exact Nat.add_sub_add_right start length position

theorem pointerAt_eq_noHeaderPointer {starts : List Nat} {position length : Nat}
    (outside : ∀ start ∈ starts, start < position ∨ position + length ≤ start) :
    pointerAt starts position length = noHeaderPointer := by
  have none : starts.find? (fun start => position ≤ start ∧ start < position + length) = none := by
    rw [List.find?_eq_none]
    intro start member
    have := outside start member
    simp only [decide_eq_true_eq]
    omega
  unfold pointerAt
  rw [none]

/-- The pointer of a zone in which something starts lies in it. -/
theorem pointerAt_lt {starts : List Nat} {position length start : Nat} (member : start ∈ starts)
    (inside : position ≤ start ∧ start < position + length) :
    pointerAt starts position length < length := by
  unfold pointerAt
  cases found : starts.find? fun start => position ≤ start ∧ start < position + length with
  | none => exact absurd (decide_eq_true inside) (List.find?_eq_none.mp found start member)
  | some other =>
    have within := List.find?_some found
    rw [decide_eq_true_eq] at within
    show other - position < length
    omega

theorem pointerAt_cons {position length start : Nat} (starts : List Nat)
    (inside : position ≤ start ∧ start < position + length) :
    pointerAt (start :: starts) position length = start - position := by
  have hit : decide (position ≤ start ∧ start < position + length) = true := decide_eq_true inside
  simp only [pointerAt, List.find?_cons, hit]

/-! ### The missing end -/

namespace Stretch

/-- The packets that frames complete: all, unless the stretch ends open. -/
def completed (stretch : Stretch) (zoneLength count : Nat) : List Bytes :=
  if stretch.EndsOpen zoneLength count then stretch.packets.dropLast else stretch.packets

/-- What is pending after the frames: what has come of a packet that has not ended, or the last
packet when the stretch ends open. -/
def unfinished (stretch : Stretch) (zoneLength count : Nat) : Bytes :=
  if stretch.EndsOpen zoneLength count then stretch.packets.getLast?.getD [] else stretch.trailing

/-- The packet in the middle of which a stretch ends, if there is one, completed by what is
missing of it. -/
structure Completion (stretch : Stretch) (tail : List Bytes) (missing : Bytes) : Prop where
  whole : ∀ packet ∈ stretch.packets ++ tail, IsPacket packet
  starts : stretch.starts = startsFrom stretch.lead.length (stretch.packets ++ tail)
  bytes : stretch.bytes ++ missing = stretch.lead ++ (stretch.packets ++ tail).flatten
  shape : stretch.trailing = [] ∧ tail = [] ∧ missing = [] ∨
    stretch.trailing ≠ [] ∧ tail = [stretch.trailing ++ missing] ∧ missing ≠ []

theorem exists_completion (stretch : Stretch) :
    ∃ tail missing, stretch.Completion tail missing := by
  by_cases none : stretch.trailing = []
  · refine ⟨[], [], ?_, ?_, ?_, Or.inl ⟨none, rfl, rfl⟩⟩
    · rw [List.append_nil]
      exact stretch.whole
    · rw [starts, pieces, if_pos none, List.append_nil]
    · simp only [bytes, none, List.append_nil]
  · obtain ⟨missing, some, whole⟩ := stretch.beginning
    refine ⟨[stretch.trailing ++ missing], missing, ?_, ?_, ?_, Or.inr ⟨none, rfl, some⟩⟩
    · rw [List.forall_mem_append, List.forall_mem_singleton]
      exact ⟨stretch.whole, whole⟩
    · rw [starts, pieces, if_neg none, startsFrom_append, startsFrom_append]
      rfl
    · simp only [bytes, List.flatten_append, List.flatten_cons, List.flatten_nil, List.append_nil,
        List.append_assoc]

/-- What is missing is missing of the tail. -/
theorem Completion.length_le {stretch : Stretch} {tail : List Bytes} {missing : Bytes}
    (completion : stretch.Completion tail missing) : missing.length ≤ tail.flatten.length := by
  rcases completion.shape with ⟨_, rfl, rfl⟩ | ⟨_, rfl, _⟩
  · exact Nat.le_refl _
  · rw [List.flatten_singleton, List.length_append]
    exact Nat.le_add_left _ _

/-- At most one packet has begun and not ended. -/
theorem Completion.single {stretch : Stretch} {tail : List Bytes} {missing : Bytes}
    (completion : stretch.Completion tail missing) : tail.length ≤ 1 := by
  rcases completion.shape with ⟨_, rfl, _⟩ | ⟨_, rfl, _⟩
  · exact Nat.zero_le 1
  · exact Nat.le_refl 1

variable {stretch : Stretch} {geometry : FrameGeometry} {first : Nat} {frames : List Bytes}

/-- Without frames there is nothing to carry. -/
theorem CarriedBy.nil (carried : stretch.CarriedBy geometry first []) :
    stretch.packets = [] ∧ stretch.trailing = [] := by
  have filled := carried.filled
  rw [List.length_nil, Nat.zero_mul, List.length_eq_zero_iff, bytes, List.append_eq_nil_iff,
    List.append_eq_nil_iff] at filled
  exact ⟨eq_nil_of_flatten_eq_nil (fun packet member => (stretch.whole packet member).ne_nil)
    filled.1.2, filled.2⟩

/-- Everything that starts in a stretch starts before its end. -/
theorem start_lt (stretch : Stretch) {start : Nat} (member : start ∈ stretch.starts) :
    start < stretch.bytes.length := by
  have some : ∀ piece ∈ stretch.pieces, piece ≠ [] := by
    unfold pieces
    by_cases none : stretch.trailing = []
    · rw [if_pos none]
      exact fun piece member => (stretch.whole piece member).ne_nil
    · rw [if_neg none, List.forall_mem_append, List.forall_mem_singleton]
      exact ⟨fun piece member => (stretch.whole piece member).ne_nil, none⟩
  have flat : stretch.bytes = stretch.lead ++ stretch.pieces.flatten := by
    unfold bytes pieces
    by_cases none : stretch.trailing = []
    · rw [if_pos none, none, List.append_nil]
    · rw [if_neg none, List.flatten_append, List.flatten_singleton, List.append_assoc]
  rw [flat, List.length_append]
  exact lt_of_mem_startsFrom some member

/-- The last pointer says "none" exactly when nothing starts in the last zone. -/
theorem CarriedBy.last_pointer (carried : stretch.CarriedBy geometry first frames)
    (narrow : geometry.zoneLength ≤ noHeaderPointer) {last : Bytes}
    (ends : last ∈ frames.getLast?) :
    geometry.firstHeaderPointer? last = some noHeaderPointer ↔
      ∀ start ∈ stretch.starts, start < (frames.length - 1) * geometry.zoneLength := by
  have positive := geometry.zone_pos
  obtain ⟨some, same⟩ := List.getLast?_eq_some_iff.mp ends
  have count : frames.length = some.length + 1 := by
    rw [same, List.length_append, List.length_singleton]
  have inside : some.length < frames.length := by omega
  have read := carried.frame some.length inside
  have found : frames[some.length] = last := by
    simp only [same, List.getElem_concat_length]
  rw [found] at read
  have total := carried.filled
  rw [count, Nat.succ_mul] at total
  rw [read.pointer, Option.some.injEq, count, Nat.add_sub_cancel]
  constructor
  · intro none start member
    refine Nat.lt_of_not_le fun later => ?_
    have bound := stretch.start_lt member
    rw [total] at bound
    have less := pointerAt_lt member ⟨later, bound⟩
    omega
  · intro before
    exact pointerAt_eq_noHeaderPointer fun start member => Or.inl (before start member)

end Stretch

end Downlink
