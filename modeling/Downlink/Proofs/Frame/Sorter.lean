/-
**What comes out of a sorter.**

A sorter never runs out of places, and gives out every frame before the first one without a header,
each once:

* `FrameSorter.givesOut_inOrder`: taken one at a time, the frames come out in the order in which
  `inOrder` puts all of them;
* `FrameSorter.answer_goesOut`: no frame goes out more than one call before its turn, and none
  behind a later one with a higher counter, the start of a round apart.
-/

import Downlink.Frame.Sorter
import Downlink.Proofs.Answers
import Downlink.Proofs.Frame.Order
import Downlink.Proofs.Frame.Places
import Mathlib.Data.List.TakeWhile

namespace Downlink

/-- The frames before the first one that is too short for a header. -/
def framesRead (frames : List Bytes) : List Bytes :=
  frames.takeWhile fun frame => FrameField.headerLength ≤ frame.length

namespace NumberedFrame

theorem of?_eq_none {frame : Bytes} (short : frame.length < FrameField.headerLength) :
    of? frame = none := by
  have last : Word.u1.read? frame 5 = none := by
    rw [← Option.not_isSome_iff_eq_none, Word.isSome_read?]
    exact Nat.not_le.mpr short
  cases first : Word.u1.read? frame 0 <;> simp [of?, FrameHeader.decode?, first, last]

theorem readable_framesRead (frames : List Bytes) :
    readable (framesRead frames) = readable frames := by
  induction frames with
  | nil => rfl
  | cons frame frames ih =>
    unfold framesRead at ih ⊢
    by_cases header : FrameField.headerLength ≤ frame.length
    · rw [List.takeWhile_cons_of_pos (by simpa using header), readable, readable, ih]
    · rw [List.takeWhile_cons_of_neg (by simpa using header), readable, readable,
        of?_eq_none (Nat.not_le.mp header)]

/-- What is read are the frames before the first one without a header, with their counters. -/
theorem readable_known (frames : List Bytes) :
    (readable frames).map (·.frame) = framesRead frames ∧
      ∀ numbered ∈ readable frames, numbered.Known := by
  rw [← readable_framesRead]
  exact readable_of_headers fun frame member => by simpa using List.mem_takeWhile_imp member

end NumberedFrame

namespace FrameSorter

open NumberedFrame

variable {input : List Bytes} {places : FramePlaces}

/-- What goes out when a frame does. -/
def given (numbered : NumberedFrame) : Except SorterFault Bytes :=
  .ok numbered.frame

/-! ### One frame held back -/

/-- When the input has ended, the frame that is held goes out, and nothing after it. -/
theorem givesOut_last {held : NumberedFrame} {fill : NumberedFrame → FramePlaces}
    (free : places.free? = some fill) (holds : places.takeFirst? = some (held, {}))
    (ended : readable input = []) : GivesOut next ⟨input, places, .reading⟩ [given held] := by
  have empty (left : List Bytes) : GivesOut next ⟨left, {}, .emptying⟩ [] := .nil rfl rfl
  cases input with
  | nil => exact .cons (by simp [next, advance, free, drain, holds, given]) (empty [])
  | cons frame input =>
    cases read : of? frame with
    | none => exact .cons (by simp [next, advance, free, read, drain, holds, given]) (empty input)
    | some numbered => simp [readable, read] at ended

/-- When both places are taken, one of the two frames goes out and the other one stays. -/
theorem next_full {frame : Bytes} {numbered out : NumberedFrame}
    {fill : NumberedFrame → FramePlaces} {left : FramePlaces} (free : places.free? = some fill)
    (read : of? frame = some numbered) (chooses : (fill numbered).choose? = some (out, left)) :
    next ⟨frame :: input, places, .reading⟩ = (some (given out), ⟨input, left, .reading⟩) := by
  simp [next, advance, free, read, chooses, given]

/-- Frames go out of a sorter that holds one, in whichever place, as they are released. -/
theorem givesOut_held (held : NumberedFrame) (input : List Bytes) :
    GivesOut next ⟨input, ⟨some held, none⟩, .reading⟩
        ((released (held :: readable input)).map given) ∧
      GivesOut next ⟨input, ⟨none, some held⟩, .reading⟩
        ((releasedBehind held (readable input)).map given) := by
  induction input generalizing held with
  | nil => exact ⟨givesOut_last rfl rfl rfl, givesOut_last rfl rfl rfl⟩
  | cons frame input ih =>
    cases read : of? frame with
    | none =>
      have ended : readable (frame :: input) = [] := by rw [readable, read]
      have last : releasedBehind held (readable (frame :: input)) = [held] := by rw [ended]; rfl
      rw [last, ended]
      exact ⟨givesOut_last rfl rfl ended, givesOut_last rfl rfl ended⟩
    | some numbered =>
      have more : readable (frame :: input) = numbered :: readable input := by
        rw [readable, read]
      rw [more, released_cons_cons, releasedBehind_cons]
      constructor
      · split
        · rename_i precedes
          exact .cons (next_full rfl read (if_pos precedes)) (ih numbered).2
        · rename_i follows
          exact .cons (next_full rfl read (if_neg follows)) (ih held).1
      · split
        · rename_i precedes
          exact .cons (next_full rfl read (if_pos precedes)) (ih held).2
        · rename_i follows
          exact .cons (next_full rfl read (if_neg follows)) (ih numbered).1

/-! ### All frames -/

/-- **A sorter gives out the frames in the order in which all of them are put**, without a fault. -/
theorem givesOut_inOrder (frames : List Bytes) :
    GivesOut next (of frames) ((inOrder frames).map Except.ok) := by
  have same : (inOrder frames).map Except.ok = (released (readable frames)).map given := by
    rw [inOrder, List.map_map]
    rfl
  rw [same]
  cases frames with
  | nil => exact .nil rfl rfl
  | cons frame frames =>
    cases read : of? frame with
    | none =>
      have ended : readable (frame :: frames) = [] := by rw [readable, read]
      have stopped : next (of (frame :: frames)) = (none, ⟨frames, {}, .emptying⟩) := by
        simp [next, FrameSorter.of, advance, FramePlaces.free?, read, drain,
          FramePlaces.takeFirst?]
      rw [ended]
      exact .nil stopped rfl
    | some numbered =>
      have more : readable (frame :: frames) = numbered :: readable frames := by
        rw [readable, read]
      rw [more]
      refine .of_next_eq ?_ (givesOut_held numbered frames).1
      simp [next, FrameSorter.of, advance, FramePlaces.free?, FramePlaces.choose?, read]

/-- The frames that are read go out in an order of the places in line at which they came in. -/
theorem inOrder_goesOut (frames : List Bytes) :
    ∃ goesOut : Equiv.Perm (Fin (framesRead frames).length),
      (inOrder frames).length = (framesRead frames).length ∧
      (∀ place, (inOrder frames)[(goesOut place).val]? = some (framesRead frames)[place]) ∧
      (∀ place, place.val ≤ goesOut place + 1) ∧
      ∀ earlier later low high, earlier < later →
        FrameField.counter? (framesRead frames)[earlier] = some low →
        FrameField.counter? (framesRead frames)[later] = some high → 0 < low → low < high →
        goesOut earlier < goesOut later := by
  obtain ⟨same, known⟩ := readable_known frames
  have length : (framesRead frames).length = (readable frames).length := by
    rw [← same, List.length_map]
  let item (place : Fin (framesRead frames).length) : NumberedFrame :=
    (readable frames).get (place.cast length)
  have frameOf (place : Fin (framesRead frames).length) :
      (item place).frame = (framesRead frames)[place] := by
    simp [item, ← same]
  have items : readable frames = (List.finRange _).map item := by
    refine List.ext_getElem (by simp [length]) fun index inside _ => ?_
    simp [item]
  have released : inOrder frames =
      ((releasedBy (fun first second => (item first).precedes (item second))
        (List.finRange _)).map item).map (·.frame) := by
    rw [inOrder, released_eq, ← releasedBy_map, ← items]
  obtain ⟨goesOut, out, soon, ahead⟩ :=
    exists_goesOut fun first second => (item first).precedes (item second)
  refine ⟨goesOut, ?_, fun place => ?_, soon, ?_⟩
  · rw [released, List.length_map, List.length_map, (releasedBy_perm _ _).length_eq,
      List.length_finRange]
  · rw [released, List.getElem?_map, List.getElem?_map, out, ← frameOf]
    rfl
  · intro earlier later low high before readLow readHigh positive less
    have counterOf (place : Fin (framesRead frames).length) :
        FrameField.counter? (framesRead frames)[place] = some (item place).counter := by
      rw [← frameOf]
      exact known _ (List.get_mem _ _)
    rw [counterOf, Option.some.injEq] at readLow readHigh
    have goes : (item earlier).precedes (item later) := precedes_iff.mpr (by omega)
    exact ahead earlier later before goes (precedes_asymm goes)

/-- **No frame is lost, and none is put further out of order.** Every frame before the first one
without a header goes out at a call of its own, no more than one call before its turn, then nothing
ever after; and of two frames with counters other than 0, one that comes first and has the lower
counter goes out first. The frames come out as `inOrder` puts them. -/
theorem answer_goesOut (frames : List Bytes) :
    ∃ goesOut : Equiv.Perm (Fin (framesRead frames).length),
      (∀ place, answer next (of frames) (goesOut place) =
        some (.ok (framesRead frames)[place])) ∧
      (∀ call, (framesRead frames).length ≤ call → answer next (of frames) call = none) ∧
      (∀ place, place.val ≤ goesOut place + 1) ∧
      (∀ earlier later low high, earlier < later →
        FrameField.counter? (framesRead frames)[earlier] = some low →
        FrameField.counter? (framesRead frames)[later] = some high → 0 < low → low < high →
        goesOut earlier < goesOut later) ∧
      ∀ call, answer next (of frames) call = ((inOrder frames)[call]?).map .ok := by
  have answers (call : Nat) :
      answer next (of frames) call = ((inOrder frames)[call]?).map .ok := by
    rw [(givesOut_inOrder frames).answer_eq, List.getElem?_map]
  obtain ⟨goesOut, length, out, soon, ahead⟩ := inOrder_goesOut frames
  refine ⟨goesOut, fun place => ?_, fun call past => ?_, soon, ahead, answers⟩
  · rw [answers, out]
    rfl
  · rw [answers, List.getElem?_eq_none (by omega)]
    rfl

/-- Frames with the counters 3, 1 and 2, then one without a header, then one with the counter 4. -/
def jumbledFrames : List Bytes :=
  [[64, 1, 0, 0, 3, 0], [64, 1, 0, 0, 1, 0], [64, 1, 0, 0, 2, 0], [64, 1], [64, 1, 0, 0, 4, 0]]

theorem answer_jumbledFrames :
    ∃ goesOut : Equiv.Perm (Fin (framesRead jumbledFrames).length),
      (∀ place, answer next (of jumbledFrames) (goesOut place) =
        some (.ok (framesRead jumbledFrames)[place])) ∧
      goesOut ⟨1, by decide⟩ < goesOut ⟨2, by decide⟩ := by
  obtain ⟨goesOut, answers, _, _, ahead, _⟩ := answer_goesOut jumbledFrames
  exact ⟨goesOut, answers,
    ahead _ _ 1 2 (by decide) (by decide) (by decide) (by decide) (by decide)⟩

end FrameSorter

end Downlink
