/-
**Frames that are in order already.**

Mending swaps holds one frame back in one of two places, while the next frame comes into the other.
What goes out is followed from either place (`released_cons_cons`, `releasedBehind_cons`).

Of frames whose counters follow each other over at most one round of counting, one at most carries
the counter 0, with which a new round starts. It gives way to every other frame, before it and after
it, so that it goes out last (`inOrder_numbered`): the frames stay as they were exactly when none
follows it.

* `released_ascending`: a frame that all others precede goes out last, the others as they came;
* `exists_inTurn`: frames whose counters follow each other, taken apart at the start of a round.
-/

import Downlink.Frame.Order
import Downlink.Proofs.Frame.Provenance
import Mathlib.Data.List.Chain

namespace Downlink

namespace NumberedFrame

/-! ### One frame held back -/

/-- The order in which frames go out while one is held back in the second place. -/
def releasedBehind (held : NumberedFrame) : List NumberedFrame → List NumberedFrame
  | [] => [held]
  | next :: rest => release next held rest

/-- A frame held back in the first place goes out, or the next one does. -/
theorem released_cons_cons (held next : NumberedFrame) (rest : List NumberedFrame) :
    released (held :: next :: rest) =
      if held.precedes next then held :: releasedBehind next rest
      else next :: released (held :: rest) := by
  cases rest with
  | nil => rfl
  | cons later rest => rfl

/-- A frame held back in the second place goes out, or the next one does. -/
theorem releasedBehind_cons (held next : NumberedFrame) (rest : List NumberedFrame) :
    releasedBehind held (next :: rest) =
      if next.precedes held then next :: releasedBehind held rest
      else held :: released (next :: rest) := by
  cases rest with
  | nil => rfl
  | cons later rest => rfl

variable {first second held older : NumberedFrame} {before after : List NumberedFrame}

theorem precedes_iff :
    first.precedes second ↔
      first.counter ≠ 0 ∧ (second.counter = 0 ∨ first.counter < second.counter) := by
  simp [precedes]

/-- Of two frames, one at most precedes the other. -/
theorem precedes_asymm (precedes : first.precedes second) : ¬ second.precedes first := by
  rw [precedes_iff] at precedes ⊢
  omega

/-! ### Frames in order -/

/-- A frame held back in the first place lets all frames pass that precede it. -/
theorem released_passed (passed : ∀ frame ∈ after, frame.precedes held) :
    released (held :: after) = after ++ [held] := by
  induction after with
  | nil => rfl
  | cons next after ih =>
    obtain ⟨precedes, others⟩ := List.forall_mem_cons.mp passed
    rw [released_cons_cons, if_neg (precedes_asymm precedes), ih others, List.cons_append]

/-- A frame held back in the second place lets all frames pass that precede it. -/
theorem releasedBehind_passed (passed : ∀ frame ∈ after, frame.precedes held) :
    releasedBehind held after = after ++ [held] := by
  induction after with
  | nil => rfl
  | cons next after ih =>
    obtain ⟨precedes, others⟩ := List.forall_mem_cons.mp passed
    rw [releasedBehind_cons, if_pos precedes, ih others, List.cons_append]

/-- Frames of which each precedes the next, up to one that all frames behind it precede too. -/
structure InTurn (before : List NumberedFrame) (held : NumberedFrame)
    (after : List NumberedFrame) : Prop where
  ascending : (before ++ [held]).IsChain (·.precedes ·)
  passed : ∀ frame ∈ after, frame.precedes held

theorem InTurn.of_cons (inTurn : InTurn (older :: before) held after) :
    InTurn before held after :=
  ⟨inTurn.ascending.tail, inTurn.passed⟩

/-- Whichever place the first of them is in, frames in turn go out as they came, up to the one that
all others precede: it goes out last. -/
theorem release_inTurn (inTurn : InTurn (older :: before) held after) :
    released (older :: (before ++ held :: after)) = older :: (before ++ after ++ [held]) ∧
      releasedBehind older (before ++ held :: after) = older :: (before ++ after ++ [held]) := by
  induction before generalizing older with
  | nil =>
    have precedes := (List.isChain_cons_cons.mp inTurn.ascending).1
    rw [List.nil_append, List.nil_append, released_cons_cons, releasedBehind_cons, if_pos precedes,
      if_neg (precedes_asymm precedes), released_passed inTurn.passed,
      releasedBehind_passed inTurn.passed]
    exact ⟨rfl, rfl⟩
  | cons next before ih =>
    have precedes := (List.isChain_cons_cons.mp inTurn.ascending).1
    obtain ⟨inFirst, inSecond⟩ := ih inTurn.of_cons
    rw [List.cons_append, released_cons_cons, releasedBehind_cons, if_pos precedes,
      if_neg (precedes_asymm precedes), inFirst, inSecond]
    exact ⟨rfl, rfl⟩

/-- **A frame that all others precede goes out last**, the others as they came. -/
theorem released_ascending (inTurn : InTurn before held after) :
    released (before ++ held :: after) = before ++ after ++ [held] := by
  cases before with
  | nil => exact released_passed inTurn.passed
  | cons older before => exact (release_inTurn inTurn).1

/-- Only the frame that goes out last can carry the counter 0. -/
theorem InTurn.counter_ne_zero (inTurn : InTurn before held after) :
    ∀ frame ∈ before ++ after, frame.counter ≠ 0 := by
  intro frame member
  rcases List.mem_append.mp member with earlier | later
  · obtain ⟨index, inside, rfl⟩ := List.getElem_of_mem earlier
    have precedes := inTurn.ascending.getElem index (by simp; omega)
    rw [List.getElem_append_left inside] at precedes
    exact (precedes_iff.mp precedes).1
  · exact (precedes_iff.mp (inTurn.passed frame later)).1

/-- Frames whose counters follow each other over at most one round of counting are in turn up to the
start of the next round, or up to the last of them. -/
theorem exists_inTurn {first : Nat} {numbered : List NumberedFrame} (some : numbered ≠ [])
    (round : numbered.length ≤ counterModulus)
    (counters : ∀ index (inside : index < numbered.length),
      numbered[index].counter = (first + index) % counterModulus) :
    ∃ before held after, numbered = before ++ held :: after ∧ InTurn before held after ∧
      (held.counter = 0 ∨ after = []) := by
  have positive := List.length_pos_iff.mpr some
  have modulus : counterModulus = 16777216 := rfl
  simp only [modulus] at round counters
  -- The place of the frame that starts a round, or the last place if none does.
  obtain ⟨place, inside, isPlace⟩ : ∃ place, place < numbered.length ∧
      place = min ((16777216 - first % 16777216) % 16777216) (numbered.length - 1) :=
    ⟨_, by omega, rfl⟩
  refine ⟨numbered.take place, numbered[place], numbered.drop (place + 1), ?_, ⟨?_, ?_⟩, ?_⟩
  · rw [List.getElem_cons_drop, List.take_append_drop]
  · rw [List.take_append_getElem, List.isChain_iff_getElem]
    intro index next
    rw [List.length_take] at next
    rw [List.getElem_take, List.getElem_take, precedes_iff, counters, counters]
    omega
  · intro frame member
    obtain ⟨index, later, rfl⟩ := List.getElem_of_mem member
    rw [List.length_drop] at later
    rw [List.getElem_drop, precedes_iff, counters, counters]
    omega
  · rw [counters, List.drop_eq_nil_iff]
    omega

/-! ### Frames and their counters -/

theorem exists_of? {frame : Bytes} (header : FrameField.headerLength ≤ frame.length) :
    ∃ counter, FrameField.counter? frame = some counter ∧ of? frame = some ⟨counter, frame⟩ := by
  have room : 6 ≤ frame.length := header
  obtain ⟨first, readFirst⟩ :=
    Word.u1.exists_read? frame 0 (by simp only [Word.u1]; omega)
  obtain ⟨second, readSecond⟩ :=
    Word.u1.exists_read? frame 1 (by simp only [Word.u1]; omega)
  obtain ⟨last, readLast⟩ :=
    Word.u1.exists_read? frame 5 (by simp only [Word.u1]; omega)
  obtain ⟨both, readBoth⟩ :=
    Word.u12.exists_read? frame 0 (by simp only [Word.u12]; omega)
  obtain ⟨counter, readCounter⟩ :=
    Word.u123.exists_read? frame 2 (by simp only [Word.u123]; omega)
  refine ⟨counter, readCounter, ?_⟩
  simp [of?, FrameHeader.decode?, FrameField.spacecraft?, FrameField.channel?,
    FrameField.counter?, readFirst, readSecond, readLast, readBoth, readCounter]

/-- The counter is the one in the frame. -/
def Known (numbered : NumberedFrame) : Prop :=
  FrameField.counter? numbered.frame = some numbered.counter

/-- Frames with headers are all readable. -/
theorem readable_of_headers {frames : List Bytes}
    (headers : ∀ frame ∈ frames, FrameField.headerLength ≤ frame.length) :
    (readable frames).map (·.frame) = frames ∧
      ∀ numbered ∈ readable frames, numbered.Known := by
  induction frames with
  | nil => exact ⟨rfl, List.forall_mem_nil _⟩
  | cons frame frames ih =>
    obtain ⟨header, others⟩ := List.forall_mem_cons.mp headers
    obtain ⟨counter, read, made⟩ := exists_of? header
    obtain ⟨same, known⟩ := ih others
    simp only [readable, made]
    exact ⟨by rw [List.map_cons, same], List.forall_mem_cons.mpr ⟨read, known⟩⟩

end NumberedFrame

/-- Whether a new round of counting starts with a frame. -/
def startsRound (frame : Bytes) : Bool :=
  FrameField.counter? frame == some 0

namespace NumberedFrame

variable {numbered held : NumberedFrame} {before after : List NumberedFrame}

theorem Known.startsRound_eq (known : numbered.Known) :
    startsRound numbered.frame = (numbered.counter == 0) := by
  unfold startsRound
  rw [known, Option.some_beq_some]

/-- No round starts with frames that carry other counters. -/
theorem filter_startsRound {frames : List NumberedFrame}
    (known : ∀ numbered ∈ frames, numbered.Known)
    (others : ∀ numbered ∈ frames, numbered.counter ≠ 0) :
    (frames.map (·.frame)).filter (startsRound ·) = [] ∧
      (frames.map (·.frame)).filter (!startsRound ·) = frames.map (·.frame) := by
  have quiet : ∀ frame ∈ frames.map (·.frame), startsRound frame = false := by
    intro frame member
    obtain ⟨numbered, inside, rfl⟩ := List.mem_map.mp member
    rw [(known numbered inside).startsRound_eq]
    exact beq_false_of_ne (others numbered inside)
  constructor
  · exact List.filter_eq_nil_iff.mpr fun frame member => by simp [quiet frame member]
  · exact List.filter_eq_self.mpr fun frame member => by simp [quiet frame member]

variable (inTurn : InTurn before held after) (ends : held.counter = 0 ∨ after = [])
  (known : ∀ numbered ∈ before ++ held :: after, numbered.Known)
include inTurn ends known

/-- The frame that goes out last is the one with which a round starts, if there is one. -/
theorem InTurn.map_eq :
    (before ++ after ++ [held]).map (·.frame) =
      ((before ++ held :: after).map (·.frame)).filter (!startsRound ·) ++
        ((before ++ held :: after).map (·.frame)).filter (startsRound ·) := by
  obtain ⟨knownBefore, knownOthers⟩ := List.forall_mem_append.mp known
  obtain ⟨knownHeld, knownAfter⟩ := List.forall_mem_cons.mp knownOthers
  obtain ⟨otherBefore, otherAfter⟩ := List.forall_mem_append.mp inTurn.counter_ne_zero
  obtain ⟨noneBefore, allBefore⟩ := filter_startsRound knownBefore otherBefore
  obtain ⟨noneAfter, allAfter⟩ := filter_startsRound knownAfter otherAfter
  simp only [List.map_append, List.map_cons, List.map_nil, List.filter_append, List.filter_cons,
    noneBefore, allBefore, noneAfter, allAfter, knownHeld.startsRound_eq]
  by_cases starts : held.counter = 0
  · simp [starts]
  · obtain rfl := ends.resolve_left starts
    simp [starts]

/-- The frames stay in order when no frame follows the one that goes out last, and else do not. -/
theorem InTurn.map_eq_self_iff :
    (before ++ after ++ [held]).map (·.frame) = (before ++ held :: after).map (·.frame) ↔
      after = [] := by
  constructor
  · intro same
    cases after with
    | nil => rfl
    | cons next after =>
      simp only [List.map_append, List.map_cons, List.append_assoc, List.append_cancel_left_eq,
        List.cons_append, List.cons.injEq] at same
      have zero := ends.resolve_right (List.cons_ne_nil _ _)
      have other : next.counter ≠ 0 := inTurn.counter_ne_zero next (by simp)
      have read : next.Known := known next (by simp)
      have readHeld : held.Known := known held (by simp)
      rw [Known, same.1, readHeld, Option.some.injEq, zero] at read
      exact absurd read.symm other
  · rintro rfl
    rw [List.append_nil]

/-- The round starts with the last frame, if it starts with any. -/
theorem InTurn.forall_startsRound_iff :
    (∀ index (inside : index < ((before ++ held :: after).map (·.frame)).length),
        startsRound ((before ++ held :: after).map (·.frame))[index] →
          index + 1 = ((before ++ held :: after).map (·.frame)).length) ↔ after = [] := by
  have starts (index : Nat) (inside : index < (before ++ held :: after).length) :
      startsRound (before ++ held :: after)[index].frame =
        ((before ++ held :: after)[index].counter == 0) :=
    (known _ (List.getElem_mem inside)).startsRound_eq
  simp only [List.getElem_map, List.length_map]
  constructor
  · intro last
    rcases ends with zero | nothing
    · have inside : before.length < (before ++ held :: after).length := by simp
      have here : (before ++ held :: after)[before.length] = held := by simp
      have lastHere := last before.length inside (by rw [starts _ inside, here]; simp [zero])
      rw [List.length_append, List.length_cons] at lastHere
      exact List.length_eq_zero_iff.mp (by omega)
    · exact nothing
  · rintro rfl index inside starting
    rw [starts index inside, beq_iff_eq] at starting
    by_cases earlier : index < before.length
    · have other := inTurn.counter_ne_zero before[index] (by simp)
      rw [List.getElem_append_left earlier] at starting
      exact absurd starting other
    · rw [List.length_append, List.length_singleton] at inside ⊢
      omega

end NumberedFrame

open NumberedFrame in
/-- **Frames whose counters follow each other go out as they came, but for the one with which a new
round of counting starts: it goes out last.** So they stay in order exactly when no frame follows
that one. -/
theorem inOrder_numbered {first : Nat} {frames : List Bytes} (numbered : Numbered first frames)
    (headers : ∀ frame ∈ frames, FrameField.headerLength ≤ frame.length)
    (round : frames.length ≤ counterModulus) :
    inOrder frames = frames.filter (!startsRound ·) ++ frames.filter (startsRound ·) ∧
      (inOrder frames = frames ↔
        ∀ index (inside : index < frames.length), startsRound frames[index] →
          index + 1 = frames.length) := by
  obtain ⟨same, known⟩ := readable_of_headers headers
  by_cases none : frames = []
  · subst none
    exact ⟨rfl, fun _ _ inside => absurd inside (Nat.not_lt_zero _), fun _ => rfl⟩
  have sameLength : (readable frames).length = frames.length := by
    rw [← List.length_map (·.frame), same]
  have some : readable frames ≠ [] := by
    rw [← List.length_pos_iff, sameLength]
    exact List.length_pos_iff.mpr none
  have counters (index : Nat) (inside : index < (readable frames).length) :
      (readable frames)[index].counter = (first + index) % counterModulus := by
    have read := known _ (List.getElem_mem inside)
    have here := List.getElem_of_eq same (i := index) (by rw [List.length_map]; exact inside)
    rw [List.getElem_map] at here
    rw [Known, here, numbered index (sameLength ▸ inside)] at read
    exact (Option.some.inj read).symm
  obtain ⟨before, held, after, split, inTurn, ends⟩ :=
    exists_inTurn some (sameLength ▸ round) counters
  have released : inOrder frames = (before ++ after ++ [held]).map (·.frame) := by
    rw [inOrder, split, released_ascending inTurn]
  rw [split] at same known
  rw [released, ← same]
  exact ⟨inTurn.map_eq ends known,
    (inTurn.map_eq_self_iff ends known).trans (inTurn.forall_startsRound_iff ends known).symm⟩

instance (first : Nat) (frames : List Bytes) : Decidable (Numbered first frames) :=
  inferInstanceAs (Decidable (∀ index (inside : index < frames.length),
    FrameField.counter? frames[index] = some ((first + index) % counterModulus)))

/-- Frames whose counters pass the end of a round. -/
def wrappingFrames : List Bytes :=
  [[64, 1, 255, 255, 255, 0], [64, 1, 0, 0, 0, 0], [64, 1, 0, 0, 1, 0]]

theorem inOrder_wrappingFrames :
    Numbered 0xffffff wrappingFrames ∧
      (∀ frame ∈ wrappingFrames, FrameField.headerLength ≤ frame.length) ∧
      wrappingFrames.length ≤ counterModulus ∧
      inOrder wrappingFrames =
        wrappingFrames.filter (!startsRound ·) ++ wrappingFrames.filter (startsRound ·) ∧
      (inOrder wrappingFrames = wrappingFrames ↔
        ∀ index (inside : index < wrappingFrames.length), startsRound wrappingFrames[index] →
          index + 1 = wrappingFrames.length) := by
  have numbered : Numbered 0xffffff wrappingFrames := by decide
  have headers : ∀ frame ∈ wrappingFrames, FrameField.headerLength ≤ frame.length := by decide
  have round : wrappingFrames.length ≤ counterModulus := by decide
  exact ⟨numbered, headers, round, inOrder_numbered numbered headers round⟩

/-- The frame with which the new round starts goes out behind the one that follows it. -/
theorem inOrder_wrappingFrames_ne :
    Numbered 0xffffff wrappingFrames ∧
      (∀ frame ∈ wrappingFrames, FrameField.headerLength ≤ frame.length) ∧
      inOrder wrappingFrames =
        [[64, 1, 255, 255, 255, 0], [64, 1, 0, 0, 1, 0], [64, 1, 0, 0, 0, 0]] ∧
      inOrder wrappingFrames ≠ wrappingFrames := by
  decide

end Downlink
