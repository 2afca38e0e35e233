/-
**What two places can put in order.**

Of two frames that are held the lower one goes out, so that the highest of all that have come in is
always held still. A frame that is lower than one earlier frame finds that frame held and goes out
ahead of it. A frame that is lower than two earlier ones comes in too late: one of these two has
gone out by then. So the frames go out in order exactly when none of them comes in behind two higher
ones.

* `releaseBy_ordered_iff`, `releasedBy_ordered_iff`: this for items of any kind, of any two of which
  one precedes the other;
* `releasedBy_neighboursSwapped`: items in order, some neighbours of which have changed places, go
  out in order again;
* `FrameSorter.answer_ascends_iff`: both for frames with counters other than 0.
-/

import Downlink.Proofs.Frame.Sorter

namespace Downlink

/-! ### Items that come in too late -/

section Items

variable {Item : Type} {precedes : Item → Item → Bool}

/-- How many of the items that came in before it an item precedes. -/
def lateness (precedes : Item → Item → Bool) (earlier : List Item) (item : Item) : Nat :=
  earlier.countP (precedes item)

/-- Each of the items precedes at most one of those that came in before it: of the `earlier` ones
and of these items themselves. -/
def InReach (precedes : Item → Item → Bool) (earlier items : List Item) : Prop :=
  ∀ place (inside : place < items.length),
    lateness precedes (earlier ++ items.take place) items[place] ≤ 1

theorem lateness_cons (other item : Item) (earlier : List Item) :
    lateness precedes (other :: earlier) item =
      lateness precedes earlier item + if precedes item other then 1 else 0 :=
  List.countP_cons

theorem lateness_cons_of_not {other item : Item} (ahead : ¬ precedes item other)
    (earlier : List Item) :
    lateness precedes (other :: earlier) item = lateness precedes earlier item :=
  List.countP_cons_of_neg ahead

/-- It does not matter in which order two items came in. -/
theorem inReach_swap {first second : Item} {items : List Item} :
    InReach precedes [first, second] items ↔ InReach precedes [second, first] items := by
  have same (earlier : List Item) (item : Item) :
      lateness precedes ([first, second] ++ earlier) item =
        lateness precedes ([second, first] ++ earlier) item :=
    ((List.Perm.swap second first []).append_right earlier).countP_eq _
  simp only [InReach, same]

/-- The first of the items that are to come is late behind few enough, when few came in before it. -/
theorem inReach_cons_iff (earlier : List Item) (few : earlier.length ≤ 1) {next : Item}
    {rest : List Item} :
    InReach precedes earlier (next :: rest) ↔ InReach precedes (earlier ++ [next]) rest := by
  have first : lateness precedes (earlier ++ []) next ≤ 1 := by
    rw [List.append_nil]
    exact List.countP_le_length.trans few
  unfold InReach
  simp only [List.append_assoc, List.singleton_append]
  exact Nat.forall_lt_succ_left'.trans (and_iff_right first)

end Items

/-! ### Items that go out in order -/

/-- Of two items one at most precedes the other, and what precedes an item precedes all that this
item precedes. -/
structure StrictlyOrders {Item : Type} (precedes : Item → Item → Bool) : Prop where
  asymm : ∀ {first second}, precedes first second → ¬ precedes second first
  trans : ∀ {first second third}, precedes first second → precedes second third →
    precedes first third

/-- Names are ordered as the items that they stand for. -/
theorem StrictlyOrders.comap {Name Item : Type} {precedes : Item → Item → Bool}
    (strict : StrictlyOrders precedes) (item : Name → Item) :
    StrictlyOrders fun first second => precedes (item first) (item second) :=
  ⟨strict.asymm, strict.trans⟩

section Order

variable {Item : Type} {precedes : Item → Item → Bool} (strict : StrictlyOrders precedes)
include strict

/-- The lower of two items goes out ahead of all that are to come, exactly when none of these is
late behind both. -/
theorem ahead_and_inReach_iff {low high : Item} {rest : List Item} (lower : precedes low high)
    (comparable : ∀ item ∈ rest, precedes low item ∨ precedes item low) :
    (∀ item ∈ rest, precedes low item) ∧ InReach precedes [high] rest ↔
      InReach precedes [low, high] rest := by
  constructor
  · rintro ⟨ahead, reach⟩ place inside
    show lateness precedes (low :: ([high] ++ rest.take place)) rest[place] ≤ 1
    rw [lateness_cons_of_not (strict.asymm (ahead _ (List.getElem_mem inside)))]
    exact reach place inside
  · intro reach
    have ahead : ∀ item ∈ rest, precedes low item := by
      intro item member
      obtain ⟨place, inside, rfl⟩ := List.getElem_of_mem member
      refine (comparable _ member).resolve_right fun late => ?_
      have both : lateness precedes (low :: high :: rest.take place) rest[place] ≤ 1 :=
        reach place inside
      rw [lateness_cons, lateness_cons, if_pos late, if_pos (strict.trans late lower)] at both
      omega
    refine ⟨ahead, fun place inside => ?_⟩
    have kept : lateness precedes (low :: ([high] ++ rest.take place)) rest[place] ≤ 1 :=
      reach place inside
    rw [lateness_cons_of_not (strict.asymm (ahead _ (List.getElem_mem inside)))] at kept
    exact kept

/-- One item goes out and the higher one stays, with which the next item and the rest go out. -/
theorem ordered_cons_iff {low high next : Item} {rest out : List Item} (lower : precedes low high)
    (comparable : ∀ item ∈ next :: rest, precedes low item ∨ precedes item low)
    (perm : out.Perm (high :: next :: rest))
    (ordered : out.Pairwise (precedes · ·) ↔ InReach precedes [high, next] rest) :
    (low :: out).Pairwise (precedes · ·) ↔ InReach precedes [low, high] (next :: rest) := by
  have behind : (∀ item ∈ out, precedes low item) ↔ ∀ item ∈ next :: rest, precedes low item := by
    simp only [perm.mem_iff]
    rw [List.forall_mem_cons, and_iff_right lower]
  calc (low :: out).Pairwise (precedes · ·)
      ↔ (∀ item ∈ next :: rest, precedes low item) ∧ InReach precedes [high, next] rest := by
        rw [List.pairwise_cons, behind, ordered]
    _ ↔ (∀ item ∈ next :: rest, precedes low item) ∧ InReach precedes [high] (next :: rest) := by
        rw [inReach_cons_iff [high] (Nat.le_refl 1), List.singleton_append]
    _ ↔ InReach precedes [low, high] (next :: rest) :=
        ahead_and_inReach_iff strict lower comparable

/-- Two items that are held and those still to come go out in order exactly when none of these is
late behind two. -/
theorem releaseBy_ordered_iff {first second : Item} {rest : List Item}
    (comparable : (first :: second :: rest).Pairwise fun earlier later =>
      precedes earlier later ∨ precedes later earlier) :
    (releaseBy precedes first second rest).Pairwise (precedes · ·) ↔
      InReach precedes [first, second] rest := by
  -- The induction is on what is still to come. Whichever of the two is held back stays comparable
  -- with the rest, and `ordered_cons_iff` takes the lower one off the front.
  induction rest generalizing first second with
  | nil =>
    have either := List.rel_of_pairwise_cons comparable List.mem_cons_self
    have nothing : InReach precedes [first, second] [] := fun _ inside => nomatch inside
    rw [releaseBy, iff_true_right nothing]
    split
    case isTrue goes => exact List.pairwise_pair.mpr goes
    case isFalse stays => exact List.pairwise_pair.mpr (either.resolve_left stays)
  | cons next rest ih =>
    obtain ⟨ofFirst, others⟩ := List.pairwise_cons.mp comparable
    obtain ⟨either, firstRest⟩ := List.forall_mem_cons.mp ofFirst
    obtain ⟨ofSecond, restCompared⟩ := List.pairwise_cons.mp others
    rw [releaseBy]
    split
    case isTrue goes =>
      have still : (next :: second :: rest).Pairwise fun earlier later =>
          precedes earlier later ∨ precedes later earlier :=
        ((List.Perm.swap second next rest).pairwise_iff fun pair => Or.symm pair).mpr others
      have perm := (releaseBy_perm precedes next second rest).trans (.swap second next rest)
      exact ordered_cons_iff strict goes firstRest perm ((ih still).trans inReach_swap)
    case isFalse stays =>
      have still : (first :: next :: rest).Pairwise fun earlier later =>
          precedes earlier later ∨ precedes later earlier :=
        List.pairwise_cons.mpr ⟨firstRest, restCompared⟩
      have perm := releaseBy_perm precedes first next rest
      rw [inReach_swap]
      exact ordered_cons_iff strict (either.resolve_left stays) ofSecond perm (ih still)

/-- **Items of which one of any two precedes the other go out in order exactly when each precedes at
most one of those that came in before it.** -/
theorem releasedBy_ordered_iff {items : List Item}
    (comparable : items.Pairwise fun earlier later =>
      precedes earlier later ∨ precedes later earlier) :
    (releasedBy precedes items).Pairwise (precedes · ·) ↔ InReach precedes [] items := by
  match items with
  | [] => exact iff_of_true .nil fun _ inside => nomatch inside
  | [item] =>
    rw [inReach_cons_iff [] (Nat.zero_le 1)]
    exact iff_of_true (List.pairwise_singleton _ _) fun _ inside => nomatch inside
  | first :: second :: rest =>
    rw [inReach_cons_iff [] (Nat.zero_le 1), List.nil_append,
      inReach_cons_iff [first] (Nat.le_refl 1)]
    exact releaseBy_ordered_iff strict comparable

end Order

/-! ### Neighbours that have changed places -/

/-- Items of which some neighbours have changed places, none of them twice. -/
inductive NeighboursSwapped {Item : Type} : List Item → List Item → Prop
  | nil : NeighboursSwapped [] []
  | kept {items swapped : List Item} (item : Item) (others : NeighboursSwapped items swapped) :
      NeighboursSwapped (item :: items) (item :: swapped)
  | swapped {items swapped : List Item} (first second : Item)
      (others : NeighboursSwapped items swapped) :
      NeighboursSwapped (first :: second :: items) (second :: first :: swapped)

namespace NeighboursSwapped

variable {Item : Type} {precedes : Item → Item → Bool} {items swapped : List Item}

theorem perm (neighbours : NeighboursSwapped items swapped) : swapped.Perm items := by
  induction neighbours with
  | nil => exact .nil
  | kept item _ ih => exact ih.cons item
  | swapped first second _ ih => exact ((ih.cons first).cons second).trans (.swap first second _)

/-- Items that were in order are late behind their neighbours at most. -/
theorem inReach (neighbours : NeighboursSwapped items swapped) (strict : StrictlyOrders precedes)
    (ordered : items.Pairwise (precedes · ·)) : InReach precedes [] swapped := by
  induction neighbours with
  | nil => exact fun _ inside => nomatch inside
  | @kept items swapped item others ih =>
    obtain ⟨first, ordered⟩ := List.pairwise_cons.mp ordered
    rw [inReach_cons_iff [] (Nat.zero_le 1)]
    intro place inside
    have behind := first _ (others.perm.mem_iff.mp (List.getElem_mem inside))
    show lateness precedes (item :: swapped.take place) swapped[place] ≤ 1
    rw [lateness_cons_of_not (strict.asymm behind)]
    exact ih ordered place inside
  | @swapped items swapped first second others ih =>
    obtain ⟨ofFirst, ordered⟩ := List.pairwise_cons.mp ordered
    obtain ⟨ofSecond, ordered⟩ := List.pairwise_cons.mp ordered
    rw [inReach_cons_iff [] (Nat.zero_le 1), List.nil_append,
      inReach_cons_iff [second] (Nat.le_refl 1)]
    intro place inside
    have member := others.perm.mem_iff.mp (List.getElem_mem inside)
    have behindFirst := ofFirst _ (List.mem_cons_of_mem second member)
    show lateness precedes (second :: first :: swapped.take place) swapped[place] ≤ 1
    rw [lateness_cons_of_not (strict.asymm (ofSecond _ member)),
      lateness_cons_of_not (strict.asymm behindFirst)]
    exact ih ordered place inside

end NeighboursSwapped

/-- Items in order, some neighbours of which have changed places, go out in order again. -/
theorem releasedBy_neighboursSwapped {Item : Type} {precedes : Item → Item → Bool}
    {items swapped : List Item} (strict : StrictlyOrders precedes)
    (ordered : items.Pairwise (precedes · ·)) (neighbours : NeighboursSwapped items swapped) :
    releasedBy precedes swapped = items := by
  have comparable : swapped.Pairwise fun earlier later =>
      precedes earlier later ∨ precedes later earlier :=
    (neighbours.perm.pairwise_iff fun pair => Or.symm pair).mpr (ordered.imp Or.inl)
  have sorted := (releasedBy_ordered_iff strict comparable).mpr (neighbours.inReach strict ordered)
  refine ((releasedBy_perm precedes swapped).trans neighbours.perm).eq_of_pairwise ?_ sorted ordered
  intro first second _ _ ahead behind
  exact absurd behind (strict.asymm ahead)

/-! ### Frames and their counters -/

/-- A frame has a lower counter than another one. -/
def CountedBefore (first second : Bytes) : Prop :=
  ∃ low ∈ FrameField.counter? first, ∃ high ∈ FrameField.counter? second, low < high

instance (first second : Bytes) : Decidable (CountedBefore first second) :=
  inferInstanceAs (Decidable (∃ low ∈ _, ∃ high ∈ _, low < high))

namespace NumberedFrame

/-- A frame with the counter in it. -/
def ofFrame (frame : Bytes) : NumberedFrame :=
  ⟨(FrameField.counter? frame).getD 0, frame⟩

theorem precedes_strict : StrictlyOrders precedes where
  asymm := precedes_asymm
  trans := by
    intro first second third goes next
    rw [precedes_iff] at goes next ⊢
    omega

variable {frames : List Bytes} {first second : Bytes}

theorem readable_eq_map (headers : ∀ frame ∈ frames, FrameField.headerLength ≤ frame.length) :
    readable frames = frames.map ofFrame := by
  induction frames with
  | nil => rfl
  | cons frame frames ih =>
    obtain ⟨header, others⟩ := List.forall_mem_cons.mp headers
    obtain ⟨counter, read, made⟩ := exists_of? header
    simp only [readable, made, ih others, List.map_cons, ofFrame, read, Option.getD_some]

/-- Frames with headers go out by the counters in them. -/
theorem inOrder_eq_releasedBy
    (headers : ∀ frame ∈ frames, FrameField.headerLength ≤ frame.length) :
    inOrder frames =
      releasedBy (fun first second => (ofFrame first).precedes (ofFrame second)) frames := by
  have back : NumberedFrame.frame ∘ ofFrame = id := rfl
  rw [inOrder, readable_eq_map headers, released_eq, releasedBy_map, List.map_map, back, List.map_id]

section Counted

variable (headers : ∀ frame ∈ frames, FrameField.headerLength ≤ frame.length)
include headers

/-- Of two frames with different counters one has the lower counter. -/
theorem countedBefore_or (inFirst : first ∈ frames) (inSecond : second ∈ frames)
    (different : FrameField.counter? first ≠ FrameField.counter? second) :
    CountedBefore first second ∨ CountedBefore second first := by
  obtain ⟨low, readLow, _⟩ := exists_of? (headers first inFirst)
  obtain ⟨high, readHigh, _⟩ := exists_of? (headers second inSecond)
  rw [readLow, readHigh, ne_eq, Option.some.injEq] at different
  rcases Nat.lt_or_gt_of_ne different with less | greater
  · exact .inl ⟨low, readLow, high, readHigh, less⟩
  · exact .inr ⟨high, readHigh, low, readLow, greater⟩

/-- A frame that starts no round precedes those with a higher counter. -/
theorem ofFrame_precedes_iff (counted : ∀ frame ∈ frames, ¬ startsRound frame)
    (inFirst : first ∈ frames) (inSecond : second ∈ frames) :
    (ofFrame first).precedes (ofFrame second) ↔ CountedBefore first second := by
  obtain ⟨low, readLow, _⟩ := exists_of? (headers first inFirst)
  obtain ⟨high, readHigh, _⟩ := exists_of? (headers second inSecond)
  have positive : low ≠ 0 ∧ high ≠ 0 := by
    have both := And.intro (counted first inFirst) (counted second inSecond)
    simpa [startsRound, readLow, readHigh] using both
  simp only [precedes_iff, ofFrame, CountedBefore, readLow, readHigh, Option.mem_some,
    exists_eq_left', Option.getD_some]
  omega

end Counted

end NumberedFrame

namespace FrameSorter

open NumberedFrame

/-- **Frames with different counters other than 0 go out with ascending counters exactly when each of
them comes in behind at most one frame with a higher counter.** So frames whose counters ascended
before some neighbours changed places go out as they were before. -/
theorem answer_ascends_iff {frames : List Bytes}
    (headers : ∀ frame ∈ frames, FrameField.headerLength ≤ frame.length)
    (counted : ∀ frame ∈ frames, ¬ startsRound frame)
    (distinct : (frames.map FrameField.counter?).Nodup) :
    (∀ call, answer next (of frames) call = ((inOrder frames)[call]?).map .ok) ∧
      ((inOrder frames).Pairwise CountedBefore ↔
        ∀ place (inside : place < frames.length),
          (frames.take place).countP (CountedBefore frames[place] ·) ≤ 1) ∧
      ∀ stream : List Bytes, stream.Pairwise CountedBefore → NeighboursSwapped stream frames →
        inOrder frames = stream := by
  let goesFirst (first second : Bytes) : Bool := (ofFrame first).precedes (ofFrame second)
  have strict : StrictlyOrders goesFirst := precedes_strict.comap ofFrame
  have lower {first second : Bytes} (inFirst : first ∈ frames) (inSecond : second ∈ frames) :
      goesFirst first second ↔ CountedBefore first second :=
    ofFrame_precedes_iff headers counted inFirst inSecond
  have perm := releasedBy_perm goesFirst frames
  rw [inOrder_eq_releasedBy headers]
  refine ⟨fun call => ?_, ?_, fun stream ascends neighbours => ?_⟩
  · rw [(givesOut_inOrder frames).answer_eq, List.getElem?_map, inOrder_eq_releasedBy headers]
  · have comparable : frames.Pairwise fun earlier later =>
        goesFirst earlier later ∨ goesFirst later earlier := by
      refine (List.pairwise_map.mp distinct).imp_of_mem ?_
      intro earlier later isEarlier isLater different
      rw [lower isEarlier isLater, lower isLater isEarlier]
      exact countedBefore_or headers isEarlier isLater different
    calc (releasedBy goesFirst frames).Pairwise CountedBefore
        ↔ (releasedBy goesFirst frames).Pairwise (goesFirst · ·) :=
          List.Pairwise.iff_of_mem fun isOut isLater =>
            (lower (perm.mem_iff.mp isOut) (perm.mem_iff.mp isLater)).symm
      _ ↔ InReach goesFirst [] frames := releasedBy_ordered_iff strict comparable
      _ ↔ ∀ place (inside : place < frames.length),
            (frames.take place).countP (CountedBefore frames[place] ·) ≤ 1 := by
          refine forall₂_congr fun place inside => ?_
          rw [lateness, List.nil_append, List.countP_congr]
          intro earlier came
          rw [lower (List.getElem_mem inside) (List.mem_of_mem_take came), decide_eq_true_iff]
  · refine releasedBy_neighboursSwapped strict (ascends.imp_of_mem ?_) neighbours
    intro earlier later isEarlier isLater less
    exact (lower (neighbours.perm.mem_iff.mpr isEarlier)
      (neighbours.perm.mem_iff.mpr isLater)).mpr less

/-- Frames with the counters 1 to 5. -/
def countedFrames : List Bytes :=
  [[64, 1, 0, 0, 1, 0], [64, 1, 0, 0, 2, 0], [64, 1, 0, 0, 3, 0], [64, 1, 0, 0, 4, 0],
    [64, 1, 0, 0, 5, 0]]

/-- These frames, of which the first two and the last two have changed places. -/
def pairedFrames : List Bytes :=
  [[64, 1, 0, 0, 2, 0], [64, 1, 0, 0, 1, 0], [64, 1, 0, 0, 3, 0], [64, 1, 0, 0, 5, 0],
    [64, 1, 0, 0, 4, 0]]

theorem answer_pairedFrames :
    (∀ frame ∈ pairedFrames, FrameField.headerLength ≤ frame.length) ∧
      (∀ frame ∈ pairedFrames, ¬ startsRound frame) ∧
      (pairedFrames.map FrameField.counter?).Nodup ∧
      countedFrames.Pairwise CountedBefore ∧ NeighboursSwapped countedFrames pairedFrames ∧
      (∀ call, answer next (of pairedFrames) call = ((inOrder pairedFrames)[call]?).map .ok) ∧
      (inOrder pairedFrames).Pairwise CountedBefore ∧ inOrder pairedFrames = countedFrames := by
  have headers : ∀ frame ∈ pairedFrames, FrameField.headerLength ≤ frame.length := by decide
  have counted : ∀ frame ∈ pairedFrames, ¬ startsRound frame := by decide
  have distinct : (pairedFrames.map FrameField.counter?).Nodup := by decide
  have ordered : countedFrames.Pairwise CountedBefore := by decide
  have neighbours : NeighboursSwapped countedFrames pairedFrames :=
    .swapped _ _ (.kept _ (.swapped _ _ .nil))
  obtain ⟨answers, ascends, mended⟩ := answer_ascends_iff headers counted distinct
  exact ⟨headers, counted, distinct, ordered, neighbours, answers, ascends.mpr (by decide),
    mended countedFrames ordered neighbours⟩

/-- The frame that comes in behind two higher ones goes out too late. -/
example : ¬ (inOrder [[64, 1, 0, 0, 3, 0], [64, 1, 0, 0, 2, 0], [64, 1, 0, 0, 1, 0]]).Pairwise
    CountedBefore := by
  decide

end FrameSorter

end Downlink
