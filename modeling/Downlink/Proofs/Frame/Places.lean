/-
**Two places.**

Items come in one after another, and of any two that are held the one that precedes the other goes
out, in whichever places they are. How they come out again does not depend on what they are, but
only on which precedes which:

* `releasedBy_perm`: each item goes out once;
* `releasedBy_getElem?_mem`: an item goes out no more than one call before its turn;
* `releasedBy_pairwise`: no item is overtaken by one that it precedes.

Said of the places in line at which the items came in (`exists_goesOut`), this holds however many
of the items are equal.
-/

import Downlink.Frame.Order
import Mathlib.Data.Fintype.Basic
import Mathlib.Data.List.NodupEquivFin

namespace Downlink

variable {Item : Type} (precedes : Item → Item → Bool)

/-- The order in which two items that are held and those still to come go out. -/
def releaseBy (first second : Item) : List Item → List Item
  | [] => if precedes first second then [first, second] else [second, first]
  | next :: rest =>
    if precedes first second then first :: releaseBy next second rest
    else second :: releaseBy first next rest

/-- The order in which items go out. -/
def releasedBy : List Item → List Item
  | first :: second :: rest => releaseBy precedes first second rest
  | few => few

/-! ### Items by other names -/

theorem releaseBy_map {Name : Type} (item : Name → Item) (first second : Name)
    (rest : List Name) :
    releaseBy precedes (item first) (item second) (rest.map item) =
      (releaseBy (fun first second => precedes (item first) (item second)) first second
        rest).map item := by
  induction rest generalizing first second with
  | nil =>
    rw [List.map_nil, releaseBy, releaseBy]
    split <;> rfl
  | cons next rest ih =>
    rw [List.map_cons, releaseBy, releaseBy, ih, ih]
    split <;> rfl

/-- Items go out as their names do. -/
theorem releasedBy_map {Name : Type} (item : Name → Item) (names : List Name) :
    releasedBy precedes (names.map item) =
      (releasedBy (fun first second => precedes (item first) (item second)) names).map item := by
  match names with
  | [] => rfl
  | [_] => rfl
  | first :: second :: rest => exact releaseBy_map precedes item first second rest

theorem NumberedFrame.release_eq (first second : NumberedFrame) (rest : List NumberedFrame) :
    release first second rest = releaseBy NumberedFrame.precedes first second rest := by
  induction rest generalizing first second with
  | nil => rfl
  | cons next rest ih => rw [release, releaseBy, ih, ih]

/-- Frames go out of two places in the order of their counters. -/
theorem NumberedFrame.released_eq (frames : List NumberedFrame) :
    released frames = releasedBy NumberedFrame.precedes frames := by
  match frames with
  | [] => rfl
  | [_] => rfl
  | first :: second :: rest => exact release_eq first second rest

/-! ### What goes out when -/

theorem releaseBy_perm (first second : Item) (rest : List Item) :
    (releaseBy precedes first second rest).Perm (first :: second :: rest) := by
  induction rest generalizing first second with
  | nil =>
    rw [releaseBy]
    split
    · exact .refl _
    · exact .swap first second []
  | cons next rest ih =>
    rw [releaseBy]
    split
    · exact ((ih next second).trans (.swap second next rest)).cons first
    · exact ((ih first next).cons second).trans (.swap first second (next :: rest))

/-- Each item goes out once. -/
theorem releasedBy_perm (items : List Item) : (releasedBy precedes items).Perm items := by
  match items with
  | [] => exact .refl _
  | [_] => exact .refl _
  | first :: second :: rest => exact releaseBy_perm precedes first second rest

theorem releaseBy_getElem?_mem {first second item : Item} {rest : List Item} {call : Nat}
    (out : (releaseBy precedes first second rest)[call]? = some item) :
    item ∈ first :: second :: rest.take call := by
  induction rest generalizing first second call with
  | nil =>
    have member := (releaseBy_perm precedes first second []).mem_iff.mp (List.mem_of_getElem? out)
    rw [List.take_nil]
    exact member
  | cons next rest ih =>
    rw [releaseBy] at out
    cases call with
    | zero => split at out <;> simp_all
    | succ call =>
      rw [List.take_succ_cons]
      split at out
      · have later := ih out
        grind
      · have later := ih out
        grind

/-- What goes out at a call has come in by then: two items are held at the first call, and one more
comes in before each of the others. -/
theorem releasedBy_getElem?_mem {items : List Item} {item : Item} {call : Nat}
    (out : (releasedBy precedes items)[call]? = some item) : item ∈ items.take (call + 2) := by
  match items with
  | [] => simp [releasedBy] at out
  | [_] => exact List.mem_of_getElem? out
  | first :: second :: rest => exact releaseBy_getElem?_mem precedes out

variable {Before : Item → Item → Prop}

/-- An item goes out after another one only if it came in after it or does not precede it. -/
theorem releaseBy_pairwise {first second : Item} {rest : List Item}
    (firstCame : ∀ item ∈ rest, Before first item) (secondCame : ∀ item ∈ rest, Before second item)
    (came : rest.Pairwise Before) :
    (releaseBy precedes first second rest).Pairwise fun out later =>
      Before out later ∨ ¬ (precedes later out ∧ ¬ precedes out later) := by
  induction rest generalizing first second with
  | nil =>
    rw [releaseBy]
    split <;> simp_all
  | cons next rest ih =>
    obtain ⟨firstNext, firstRest⟩ := List.forall_mem_cons.mp firstCame
    obtain ⟨secondNext, secondRest⟩ := List.forall_mem_cons.mp secondCame
    obtain ⟨nextRest, restCame⟩ := List.pairwise_cons.mp came
    rw [releaseBy]
    split
    · rename_i goes
      refine List.pairwise_cons.mpr ⟨fun later member => ?_, ih nextRest secondRest restCame⟩
      have still := (releaseBy_perm precedes next second rest).mem_iff.mp member
      rw [List.mem_cons, List.mem_cons] at still
      rcases still with rfl | rfl | inRest
      · exact .inl firstNext
      · exact .inr fun overtaken => overtaken.2 goes
      · exact .inl (firstRest later inRest)
    · rename_i stays
      refine List.pairwise_cons.mpr ⟨fun later member => ?_, ih firstRest nextRest restCame⟩
      have still := (releaseBy_perm precedes first next rest).mem_iff.mp member
      rw [List.mem_cons, List.mem_cons] at still
      rcases still with rfl | rfl | inRest
      · exact .inr fun overtaken => stays overtaken.1
      · exact .inl secondNext
      · exact .inl (secondRest later inRest)

/-- No item is overtaken by one that came in after it and that it precedes. -/
theorem releasedBy_pairwise {items : List Item} (came : items.Pairwise Before) :
    (releasedBy precedes items).Pairwise fun out later =>
      Before out later ∨ ¬ (precedes later out ∧ ¬ precedes out later) := by
  match items with
  | [] => exact .nil
  | [_] => exact List.pairwise_singleton _ _
  | first :: second :: rest =>
    obtain ⟨firstCame, others⟩ := List.pairwise_cons.mp came
    obtain ⟨secondCame, restCame⟩ := List.pairwise_cons.mp others
    exact releaseBy_pairwise precedes
      (fun item member => firstCame item (List.mem_cons_of_mem _ member)) secondCame restCame

/-! ### Places in line -/

/-- **Items that come in at so many places in line go out in an order of these places**: each once,
none more than one call before its turn, and none behind a later one that it precedes. -/
theorem exists_goesOut {count : Nat} (precedes : Fin count → Fin count → Bool) :
    ∃ goesOut : Equiv.Perm (Fin count),
      (∀ place, (releasedBy precedes (List.finRange count))[(goesOut place).val]? = some place) ∧
      (∀ place, place.val ≤ goesOut place + 1) ∧
      ∀ earlier later, earlier < later → precedes earlier later → ¬ precedes later earlier →
        goesOut earlier < goesOut later := by
  have perm := releasedBy_perm precedes (List.finRange count)
  have all (place : Fin count) : place ∈ releasedBy precedes (List.finRange count) :=
    perm.mem_iff.mpr (List.mem_finRange place)
  have length : (releasedBy precedes (List.finRange count)).length = count := by
    rw [perm.length_eq, List.length_finRange]
  let places := (perm.nodup_iff.mpr (List.nodup_finRange count)).getEquivOfForallMemList _ all
  let goesOut : Equiv.Perm (Fin count) := places.symm.trans (finCongr length)
  have out (place : Fin count) :
      (releasedBy precedes (List.finRange count))[(goesOut place).val]? = some place := by
    rw [List.getElem?_eq_some_iff]
    exact ⟨_, places.apply_symm_apply place⟩
  refine ⟨goesOut, out, fun place => ?_, fun earlier later before goes stays => ?_⟩
  · have came := releasedBy_getElem?_mem precedes (out place)
    obtain ⟨index, inside, same⟩ := List.getElem_of_mem came
    rw [List.length_take] at inside
    rw [List.getElem_take, List.getElem_finRange] at same
    have here : index = place.val := congrArg Fin.val same
    omega
  · have line := List.pairwise_iff_getElem.mp
      (releasedBy_pairwise precedes (List.pairwise_lt_finRange count))
    obtain ⟨inEarlier, atEarlier⟩ := List.getElem?_eq_some_iff.mp (out earlier)
    obtain ⟨inLater, atLater⟩ := List.getElem?_eq_some_iff.mp (out later)
    rcases lt_trichotomy (goesOut earlier) (goesOut later) with ahead | same | behind
    · exact ahead
    · exact absurd (goesOut.injective same) (Fin.ne_of_lt before)
    · have overtaken := line _ _ inLater inEarlier behind
      rw [atEarlier, atLater] at overtaken
      rcases overtaken with came | kept
      · exact absurd before (Fin.lt_asymm came)
      · exact absurd ⟨goes, stays⟩ kept

end Downlink
