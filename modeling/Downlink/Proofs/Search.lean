/-
**The first of several.**

Where several items answer a question the first or the last of them counts. `FindsFirst` and
`FindsLast` say that what is found is this one, and that nothing is found only where no item
answers. A search from the front of a list finds the first one (`findsFirst_iff`), and there is no
other (`FindsFirst.unique`).
-/

namespace Downlink

variable {Item : Type} {holds : Item → Prop} {items : List Item} {found : Option Item}

/-- What is found is the first item for which a condition holds, or nothing if it holds for none. -/
def FindsFirst (holds : Item → Prop) (items : List Item) : Option Item → Prop
  | some item => ∃ place : Nat, items[place]? = some item ∧ holds item ∧
      ∀ earlier < place, ∀ other ∈ items[earlier]?, ¬ holds other
  | none => ∀ item ∈ items, ¬ holds item

/-- What is found is the last item for which a condition holds, or nothing if it holds for none. -/
def FindsLast (holds : Item → Prop) (items : List Item) (found : Option Item) : Prop :=
  FindsFirst holds items.reverse found

/-- A search from the front finds the first item. -/
theorem findsFirst_iff {test : Item → Bool} (tests : ∀ item, test item ↔ holds item) :
    FindsFirst holds items found ↔ items.find? test = found := by
  cases found with
  | none =>
    rw [List.find?_eq_none]
    simp only [FindsFirst, tests]
  | some item =>
    rw [List.find?_eq_some_iff_getElem]
    constructor
    · rintro ⟨place, listed, right, first⟩
      obtain ⟨inside, listed⟩ := List.getElem?_eq_some_iff.mp listed
      refine ⟨(tests item).mpr right, place, inside, listed, fun earlier before => ?_⟩
      have other := first earlier before _
        (List.getElem?_eq_getElem (Nat.lt_trans before inside))
      simpa [← tests] using other
    · rintro ⟨right, place, inside, listed, first⟩
      refine ⟨place, List.getElem?_eq_some_iff.mpr ⟨inside, listed⟩, (tests item).mp right, ?_⟩
      intro earlier before other there
      obtain ⟨_, rfl⟩ := List.getElem?_eq_some_iff.mp there
      simpa [← tests] using first earlier before

/-- A search finds the only item that it can stop at. -/
theorem find?_eq_some_of_unique {test : Item → Bool} {item : Item} (member : item ∈ items)
    (right : test item) (unique : ∀ other ∈ items, test other → other = item) :
    items.find? test = some item := by
  obtain ⟨other, found⟩ := Option.isSome_iff_exists.mp (List.find?_isSome.mpr ⟨item, member, right⟩)
  have same := unique other (List.mem_of_find?_eq_some found) (List.find?_some found)
  rw [found, same]

namespace FindsFirst

/-- Only one item is the first. -/
theorem unique {other : Option Item} (first : FindsFirst holds items found)
    (second : FindsFirst holds items other) : found = other := by
  classical
  have tests : ∀ item, decide (holds item) = true ↔ holds item := fun _ => decide_eq_true_iff
  exact ((findsFirst_iff tests).mp first).symm.trans ((findsFirst_iff tests).mp second)

theorem eq_none (first : FindsFirst holds items found) (lacking : ∀ item ∈ items, ¬ holds item) :
    found = none := by
  have nothing : FindsFirst holds items none := lacking
  exact first.unique nothing

theorem mem {item : Item} (first : FindsFirst holds items (some item)) : item ∈ items := by
  obtain ⟨place, listed, -⟩ := first
  exact List.mem_of_getElem? listed

theorem right {item : Item} (first : FindsFirst holds items (some item)) : holds item := by
  obtain ⟨place, -, right, -⟩ := first
  exact right

end FindsFirst

end Downlink
