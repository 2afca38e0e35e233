/-
**Frames that go on with a stretch.**

Seen from the middle of a stretch, frames go on with what is left of a packet and then with further
ones (`Feeds`). The step from one zone to the next cuts the packets at the end of the zone (`Cut`).

* `Cut.exists_cut`: pieces can be cut wherever they have bytes;
* `feeds_of_carried`: frames whose pointers are right feed what they carry, zone by zone;
* `delivered_eq`: what has been delivered when the frames end.
-/

import Downlink.Proofs.Frame.Stretch

namespace Downlink

/-! ### Cutting at the end of a zone -/

/-- The piece of which some has come, if there is one. -/
def underWay (started left : Bytes) : List Bytes :=
  if started = [] then [] else [started ++ left]

@[simp] theorem underWay_nil (left : Bytes) : underWay [] left = [] := rfl

theorem underWay_of_ne_nil {started : Bytes} (some : started ≠ []) (left : Bytes) :
    underWay started left = [started ++ left] :=
  if_neg some

/-- What so many bytes hold of pieces that follow each other: some whole ones, and what has started
of another, of which something is left. -/
structure Cut (pieces : List Bytes) (room : Nat) (whole : List Bytes) (started left : Bytes)
    (rest : List Bytes) : Prop where
  pieces : whole ++ underWay started left ++ rest = pieces
  length : whole.flatten.length + started.length = room
  inside : started = [] ↔ left = []

namespace Cut

variable {pieces whole rest : List Bytes} {room : Nat} {started left : Bytes}

theorem flatten (cut : Cut pieces room whole started left rest) :
    pieces.flatten = (whole.flatten ++ started) ++ (left ++ rest.flatten) := by
  rw [← cut.pieces, List.flatten_append, List.flatten_append, List.append_assoc, List.append_assoc]
  by_cases none : started = []
  · rw [none, underWay_nil, cut.inside.mp none]
    rfl
  · rw [underWay_of_ne_nil none, List.flatten_singleton, List.append_assoc]

theorem length_front (cut : Cut pieces room whole started left rest) :
    (whole ++ underWay started left).flatten.length = room + left.length := by
  rw [List.flatten_append, List.length_append, ← cut.length]
  by_cases none : started = []
  · rw [none, underWay_nil, cut.inside.mp none]
    rfl
  · rw [underWay_of_ne_nil none, List.flatten_singleton, List.length_append, Nat.add_assoc]

/-- What holds of all pieces holds of those behind the cut. -/
theorem forall_rest (cut : Cut pieces room whole started left rest) {holds : Bytes → Prop}
    (all : ∀ piece ∈ pieces, holds piece) : ∀ piece ∈ rest, holds piece := by
  intro piece member
  refine all piece ?_
  rw [← cut.pieces]
  exact List.mem_append_right _ member

/-- What holds of all pieces holds of the whole ones in front of the cut. -/
theorem forall_whole (cut : Cut pieces room whole started left rest) {holds : Bytes → Prop}
    (all : ∀ piece ∈ pieces, holds piece) : ∀ piece ∈ whole, holds piece := by
  intro piece member
  refine all piece ?_
  rw [← cut.pieces]
  exact List.mem_append_left _ (List.mem_append_left _ member)

/-- Nothing in front of the cut starts at it. -/
theorem starts_lt (cut : Cut pieces room whole started left rest)
    (some : ∀ piece ∈ pieces, piece ≠ []) {position start : Nat}
    (member : start ∈ startsFrom position (whole ++ underWay started left)) :
    start < position + room := by
  have length := cut.length
  rw [startsFrom_append] at member
  rcases List.mem_append.mp member with inWhole | inStarted
  · have bound := lt_of_mem_startsFrom (cut.forall_whole some) inWhole
    omega
  · by_cases none : started = []
    · rw [none, underWay_nil] at inStarted
      exact absurd inStarted List.not_mem_nil
    · rw [underWay_of_ne_nil none] at inStarted
      have same : start = position + whole.flatten.length := List.mem_singleton.mp inStarted
      have positive := List.length_pos_iff.mpr none
      omega

/-- Where pieces start: those in front of the cut, and those behind it as seen from the cut. -/
theorem startsFrom_eq (cut : Cut pieces room whole started left rest) (position : Nat) :
    startsFrom position pieces = startsFrom position (whole ++ underWay started left) ++
      (startsFrom left.length rest).map (· + (position + room)) := by
  have behind : position + (room + left.length) = left.length + (position + room) := by omega
  rw [← cut.pieces, startsFrom_append, cut.length_front, behind, startsFrom_add]

/-- The bytes in front of the cut. -/
theorem take (cut : Cut pieces room whole started left rest) :
    pieces.flatten.take room = whole.flatten ++ started := by
  rw [cut.flatten, ← cut.length, ← List.length_append, List.take_left]

/-- The bytes behind the cut. -/
theorem drop (cut : Cut pieces room whole started left rest) :
    pieces.flatten.drop room = left ++ rest.flatten := by
  rw [cut.flatten, ← cut.length, ← List.length_append, List.drop_left]

/-- What has started of a piece in front of the cut goes on behind it. -/
theorem packet (cut : Cut pieces room whole started left rest)
    (packets : ∀ piece ∈ pieces, IsPacket piece) :
    started = [] ∧ left = [] ∨ started ≠ [] ∧ IsPacket (started ++ left) := by
  by_cases none : started = []
  · exact Or.inl ⟨none, cut.inside.mp none⟩
  · refine Or.inr ⟨none, packets _ ?_⟩
    rw [← cut.pieces, underWay_of_ne_nil none]
    exact List.mem_append_left _ (List.mem_append_right _ List.mem_cons_self)

/-- The bytes in front of the cut split where the pieces end. -/
theorem splits (cut : Cut pieces room whole started left rest)
    (packets : ∀ piece ∈ pieces, IsPacket piece) :
    Splits (whole.flatten ++ started) whole started := by
  refine .of_packets (cut.forall_whole packets) ?_
  rcases cut.packet packets with ⟨none, _⟩ | ⟨some, packet⟩
  · rw [none]
    exact isBeginning_nil
  · exact ⟨left, fun none => some (cut.inside.mpr none), packet⟩

/-- Pieces can be cut wherever they have bytes. -/
theorem exists_cut (pieces : List Bytes) (room : Nat) (enough : room ≤ pieces.flatten.length) :
    ∃ whole started left rest, Cut pieces room whole started left rest := by
  induction pieces generalizing room with
  | nil => exact ⟨[], [], [], [], rfl, (Nat.le_zero.mp enough).symm, Iff.rfl⟩
  | cons piece pieces ih =>
    rw [List.flatten_cons, List.length_append] at enough
    by_cases fits : piece.length ≤ room
    · obtain ⟨whole, started, left, rest, cut⟩ := ih (room - piece.length) (by omega)
      refine ⟨piece :: whole, started, left, rest, ?_, ?_, cut.inside⟩
      · rw [List.cons_append, List.cons_append, cut.pieces]
      · have length := cut.length
        rw [List.flatten_cons, List.length_append]
        omega
    · by_cases none : room = 0
      · exact ⟨[], [], [], piece :: pieces, rfl, none.symm, Iff.rfl⟩
      · have some : piece.take room ≠ [] := by
          intro empty
          have length := congrArg List.length empty
          rw [List.length_take, List.length_nil] at length
          omega
        refine ⟨[], piece.take room, piece.drop room, pieces, ?_, ?_, ?_⟩
        · rw [underWay_of_ne_nil some, List.take_append_drop]
          rfl
        · rw [List.flatten_nil, List.length_nil, List.length_take]
          omega
        · refine ⟨fun empty => absurd empty some, fun empty => absurd empty ?_⟩
          rw [List.drop_eq_nil_iff]
          exact fits

end Cut

/-! ### Frames that go on with a stretch -/

/-- The frames, from this counter on, go on with what is left of a piece and then with pieces, and
leave so much of the last piece that has started and the pieces after it. -/
inductive Feeds (geometry : FrameGeometry) :
    Nat → Bytes → List Bytes → List Bytes → Bytes → List Bytes → Prop
  | done (counter : Nat) (left : Bytes) (pieces : List Bytes) :
    Feeds geometry counter left pieces [] left pieces
  /-- Nothing starts in the zone. -/
  | inside {counter : Nat} {left frame left' : Bytes} {pieces frames rest : List Bytes}
    (long : geometry.zoneLength ≤ left.length)
    (read : IsFrame geometry (counter % counterModulus) noHeaderPointer
      (left.take geometry.zoneLength) frame)
    (others : Feeds geometry (counter + 1) (left.drop geometry.zoneLength) pieces frames left'
      rest) :
    Feeds geometry counter left pieces (frame :: frames) left' rest
  /-- Something starts in the zone, where all that was left has come. -/
  | start {counter : Nat} {left frame started remains left' : Bytes}
    {pieces whole later frames rest : List Bytes}
    (short : left.length < geometry.zoneLength)
    (cut : Cut pieces (geometry.zoneLength - left.length) whole started remains later)
    (read : IsFrame geometry (counter % counterModulus) left.length
      (left ++ (whole.flatten ++ started)) frame)
    (others : Feeds geometry (counter + 1) remains later frames left' rest) :
    Feeds geometry counter left pieces (frame :: frames) left' rest

/-- Every frame takes a zone full of what there is. -/
theorem Feeds.length {geometry : FrameGeometry} {counter : Nat} {left left' : Bytes}
    {pieces frames rest : List Bytes}
    (feeds : Feeds geometry counter left pieces frames left' rest) :
    left.length + pieces.flatten.length =
      frames.length * geometry.zoneLength + (left'.length + rest.flatten.length) := by
  induction feeds with
  | done => rw [List.length_nil, Nat.zero_mul, Nat.zero_add]
  | inside long _ _ ih =>
    rw [List.length_drop] at ih
    rw [List.length_cons, Nat.succ_mul]
    omega
  | start short cut _ _ ih =>
    have split := congrArg List.length cut.flatten
    have length := cut.length
    simp only [List.length_append] at split
    rw [List.length_cons, Nat.succ_mul]
    omega

/-- The frames after the first go on where its zone ends. -/
theorem carried_tail {geometry : FrameGeometry} {frames : List Bytes} {frame : Bytes} {first : Nat}
    {starts before later : List Nat} {bytes : Bytes}
    (carried : ∀ index (inside : index < (frame :: frames).length),
      IsFrame geometry ((first + index) % counterModulus)
        (pointerAt starts (index * geometry.zoneLength) geometry.zoneLength)
        ((bytes.drop (index * geometry.zoneLength)).take geometry.zoneLength)
        (frame :: frames)[index])
    (split : starts = before ++ later.map (· + geometry.zoneLength))
    (passed : ∀ start ∈ before, start < geometry.zoneLength) (index : Nat)
    (inside : index < frames.length) :
    IsFrame geometry ((first + 1 + index) % counterModulus)
      (pointerAt later (index * geometry.zoneLength) geometry.zoneLength)
      (((bytes.drop geometry.zoneLength).drop (index * geometry.zoneLength)).take
        geometry.zoneLength)
      frames[index] := by
  have read := carried (index + 1) (Nat.succ_lt_succ inside)
  have pointer : pointerAt starts ((index + 1) * geometry.zoneLength) geometry.zoneLength =
      pointerAt later (index * geometry.zoneLength) geometry.zoneLength := by
    rw [split, Nat.succ_mul, pointerAt_append, pointerAt_add]
    intro start member
    exact Nat.lt_of_lt_of_le (passed start member) (Nat.le_add_left _ _)
  rw [pointer, List.getElem_cons_succ, Nat.succ_mul, Nat.add_comm (index * _), ← List.drop_drop,
    Nat.add_comm index 1, ← Nat.add_assoc] at read
  exact read

section

variable {geometry : FrameGeometry} {left : Bytes} {pieces : List Bytes}

/-- In a zone that what is left of a piece fills, nothing starts. -/
theorem pointerAt_of_filled (long : geometry.zoneLength ≤ left.length) (pieces : List Bytes) :
    pointerAt (startsFrom left.length pieces) 0 geometry.zoneLength = noHeaderPointer := by
  refine pointerAt_eq_noHeaderPointer fun start member => Or.inr ?_
  rw [Nat.zero_add]
  exact Nat.le_trans long (le_of_mem_startsFrom member)

/-- In a zone that what is left of a piece does not fill, the next starts where that ends. -/
theorem pointerAt_of_unfilled (short : left.length < geometry.zoneLength)
    (some : pieces ≠ []) :
    pointerAt (startsFrom left.length pieces) 0 geometry.zoneLength = left.length := by
  cases pieces with
  | nil => contradiction
  | cons piece pieces => exact pointerAt_cons _ (by omega)

/-- **Frames whose pointers are right feed what they carry, zone by zone.** -/
theorem feeds_of_carried {frames : List Bytes} {first : Nat}
    (some : ∀ piece ∈ pieces, piece ≠ [])
    (carried : ∀ index (inside : index < frames.length),
      IsFrame geometry ((first + index) % counterModulus)
        (pointerAt (startsFrom left.length pieces) (index * geometry.zoneLength)
          geometry.zoneLength)
        (((left ++ pieces.flatten).drop (index * geometry.zoneLength)).take geometry.zoneLength)
        frames[index]) :
    ∃ left' rest, Feeds geometry first left pieces frames left' rest := by
  induction frames generalizing first left pieces with
  | nil => exact ⟨left, pieces, .done first left pieces⟩
  | cons frame frames ih =>
    have head := carried 0 (Nat.zero_lt_succ _)
    rw [Nat.zero_mul, List.drop_zero, Nat.add_zero, List.getElem_cons_zero] at head
    by_cases long : geometry.zoneLength ≤ left.length
    · rw [pointerAt_of_filled long, List.take_append_of_le_length long] at head
      have split : startsFrom left.length pieces =
          [] ++ (startsFrom (left.drop geometry.zoneLength).length pieces).map
            (· + geometry.zoneLength) := by
        rw [← startsFrom_add, List.length_drop, Nat.sub_add_cancel long, List.nil_append]
      obtain ⟨left', rest, others⟩ := ih some fun index inside => by
        have later := carried_tail carried split (List.forall_mem_nil _) index inside
        rw [List.drop_append_of_le_length long] at later
        exact later
      exact ⟨left', rest, .inside long head others⟩
    · have short := Nat.not_le.mp long
      have enough : geometry.zoneLength ≤ (left ++ pieces.flatten).length := by
        have length := Bytes.length_slice? head.zone
        rw [List.length_take] at length
        omega
      rw [List.length_append] at enough
      have follow : pieces ≠ [] := by
        rintro rfl
        rw [List.flatten_nil, List.length_nil] at enough
        omega
      obtain ⟨whole, started, remains, later, cut⟩ :=
        Cut.exists_cut pieces (geometry.zoneLength - left.length) (by omega)
      have zone : (left ++ pieces.flatten).take geometry.zoneLength =
          left ++ (whole.flatten ++ started) := by
        rw [List.take_append, List.take_of_length_le (Nat.le_of_lt short), cut.take]
      have split := cut.startsFrom_eq left.length
      have passed : ∀ start ∈ startsFrom left.length (whole ++ underWay started remains),
          start < left.length + (geometry.zoneLength - left.length) :=
        fun start member => cut.starts_lt some member
      rw [Nat.add_sub_cancel' (Nat.le_of_lt short)] at split passed
      rw [pointerAt_of_unfilled short follow, zone] at head
      obtain ⟨left', rest, others⟩ := ih (cut.forall_rest some) fun index inside => by
        have later := carried_tail carried split passed index inside
        rw [List.drop_append, List.drop_of_length_le (Nat.le_of_lt short), List.nil_append,
          cut.drop] at later
        exact later
      exact ⟨left', rest, .start short cut head others⟩

end

/-! ### The end of a stretch -/

/-- Frames that carry a stretch feed its packets, up to what is missing of the last. -/
theorem Stretch.CarriedBy.feeds {stretch : Stretch} {geometry : FrameGeometry} {first : Nat}
    {frames : List Bytes} (carried : stretch.CarriedBy geometry first frames) {tail : List Bytes}
    {missing : Bytes} (completion : stretch.Completion tail missing) :
    ∃ left' rest, Feeds geometry first stretch.lead (stretch.packets ++ tail) frames left' rest ∧
      left'.length + rest.flatten.length = missing.length := by
  have some : ∀ piece ∈ stretch.packets ++ tail, piece ≠ [] := fun piece member =>
    (completion.whole piece member).ne_nil
  have carried' : ∀ index (inside : index < frames.length),
      IsFrame geometry ((first + index) % counterModulus)
        (pointerAt (startsFrom stretch.lead.length (stretch.packets ++ tail))
          (index * geometry.zoneLength) geometry.zoneLength)
        (((stretch.lead ++ (stretch.packets ++ tail).flatten).drop
          (index * geometry.zoneLength)).take geometry.zoneLength) frames[index] := by
    intro index inside
    have enough : index * geometry.zoneLength + geometry.zoneLength ≤ stretch.bytes.length := by
      rw [carried.filled, ← Nat.succ_mul]
      exact Nat.mul_le_mul_right _ inside
    rw [← completion.starts, ← completion.bytes, List.drop_append_of_le_length (by omega),
      List.take_append_of_le_length (by rw [List.length_drop]; omega)]
    exact carried.frame index inside
  obtain ⟨left', rest, feeds⟩ := feeds_of_carried some carried'
  refine ⟨left', rest, feeds, ?_⟩
  have length := feeds.length
  have total := congrArg List.length completion.bytes
  have filled := carried.filled
  rw [List.length_append, List.length_append] at total
  omega

section

variable {packets delivered rest : List Bytes} {pending left : Bytes}

/-- When everything has come, nothing is left and no packet follows. -/
theorem eq_nil_of_complete (restSome : ∀ packet ∈ rest, packet ≠ [])
    (length : left.length + rest.flatten.length = 0) : left = [] ∧ rest = [] := by
  rw [Nat.add_eq_zero_iff, List.length_eq_zero_iff, List.length_eq_zero_iff] at length
  exact length.imp_right (eq_nil_of_flatten_eq_nil restSome)

/-- Everything has come: what is pending is a last packet that nothing has ended, if anything. -/
theorem delivered_eq_of_complete {endsOpen : Prop} [Decidable endsOpen]
    (split : delivered ++ underWay pending [] = packets) (inside : endsOpen → pending ≠ [])
    (start : ¬ endsOpen → pending = []) :
    delivered = (if endsOpen then packets.dropLast else packets) ∧
      pending = if endsOpen then packets.getLast?.getD [] else [] := by
  by_cases opens : endsOpen
  · rw [underWay_of_ne_nil (inside opens), List.append_nil] at split
    rw [if_pos opens, if_pos opens, ← split, List.dropLast_concat, List.getLast?_concat]
    exact ⟨rfl, rfl⟩
  · have closed := start opens
    rw [closed, underWay_nil, List.append_nil] at split
    rw [if_neg opens, if_neg opens]
    exact ⟨split, closed⟩

/-- A part of the last packet is missing: that is the one under way. -/
theorem delivered_eq_of_missing {trailing missing : Bytes} (trails : trailing ≠ [])
    (misses : missing ≠ [])
    (split : delivered ++ underWay pending left ++ rest = packets ++ [trailing ++ missing])
    (length : left.length + rest.flatten.length = missing.length)
    (nothing : pending = [] → left = []) : delivered = packets ∧ pending = trailing := by
  have trailsSome := List.length_pos_iff.mpr trails
  have missesSome := List.length_pos_iff.mpr misses
  obtain rfl : rest = [] := by
    rcases List.eq_nil_or_concat rest with none | ⟨front, packet, rfl⟩
    · exact none
    · -- More would be left than is missing.
      rw [List.concat_eq_append] at split length
      rw [← List.append_assoc] at split
      have same := List.singleton_inj.mp (List.append_inj' split rfl).2
      rw [same, List.flatten_append, List.flatten_singleton, List.length_append,
        List.length_append] at length
      omega
  rw [List.flatten_nil, List.length_nil, Nat.add_zero] at length
  have something : pending ≠ [] := by
    intro empty
    rw [nothing empty, List.length_nil] at length
    omega
  rw [underWay_of_ne_nil something, List.append_nil] at split
  obtain ⟨samePackets, sameLast⟩ := List.append_inj' split rfl
  exact ⟨samePackets, (List.append_inj' (List.singleton_inj.mp sameLast) length).1⟩

/-- **What a channel in step has delivered when the frames end**: all packets; but when the last one
fills the last zone, and nothing starts there, it is still pending. -/
theorem delivered_eq {tail : List Bytes} {trailing missing : Bytes} {endsOpen : Prop}
    [Decidable endsOpen] (some : ∀ packet ∈ packets ++ tail, packet ≠ [])
    (shape : trailing = [] ∧ tail = [] ∧ missing = [] ∨
      trailing ≠ [] ∧ tail = [trailing ++ missing] ∧ missing ≠ [])
    (split : delivered ++ underWay pending left ++ rest = packets ++ tail)
    (length : left.length + rest.flatten.length = missing.length)
    (nothing : pending = [] → left = []) (inside : endsOpen → trailing = [] ∧ pending ≠ [])
    (start : trailing = [] → ¬ endsOpen → left = [] → pending = []) :
    delivered = (if endsOpen then packets.dropLast else packets) ∧
      pending = if endsOpen then packets.getLast?.getD [] else trailing := by
  rcases shape with ⟨rfl, rfl, rfl⟩ | ⟨trails, rfl, misses⟩
  · have restSome : ∀ packet ∈ rest, packet ≠ [] := fun packet member => some packet (by
      rw [← split]
      exact List.mem_append_right _ member)
    obtain ⟨rfl, rfl⟩ := eq_nil_of_complete restSome length
    rw [List.append_nil, List.append_nil] at split
    exact delivered_eq_of_complete split (fun opens => (inside opens).2) fun closed =>
      start rfl closed rfl
  · have closed : ¬ endsOpen := fun opens => trails (inside opens).1
    rw [if_neg closed, if_neg closed]
    exact delivered_eq_of_missing trails misses split length nothing

end

end Downlink
