/-
**Answers of a reader.**

A reader is asked again and again. It gives out one item at a call until it has no more, and what
counts afterwards is that it never has one again:

* `answer` is what the reader says to a call;
* `GivesOut` says that it has exactly these items.

The answers are then the items one after another and nothing ever after (`GivesOut.answer_eq`);
asking so many times collects the first so many of them (`GivesOut.pull_eq_take`), and asking often
enough collects them all (`GivesOut.pull_eq`). A reader that has an item at every call gives out no
list of items (`GivesOut.exists_answer_eq_none`).
-/

import Downlink.Source

namespace Downlink

variable {State Item : Type} {next : State → Option Item × State}

/-- What a reader answers to a call; the calls are counted from 0. -/
def answer (next : State → Option Item × State) : State → Nat → Option Item
  | state, 0 => (next state).1
  | state, call + 1 => answer next (next state).2 call

/-- The reader gives out these items, one at a call, and nothing ever after. -/
inductive GivesOut (next : State → Option Item × State) : State → List Item → Prop
  | nil {state ended : State} (nothing : next state = (none, ended))
      (still : next ended = (none, ended)) : GivesOut next state []
  | cons {state later : State} {item : Item} {items : List Item}
      (first : next state = (some item, later)) (others : GivesOut next later items) :
      GivesOut next state (item :: items)

/-- A reader that has come to its end stays there. -/
theorem answer_ended {ended : State} (still : next ended = (none, ended)) (call : Nat) :
    answer next ended call = none := by
  induction call with
  | zero => rw [answer, still]
  | succ call ih => rw [answer, still, ih]

namespace GivesOut

variable {state : State} {items : List Item}

/-- It does not matter how a reader came to its first answer. -/
theorem of_next_eq {other : State} (same : next state = next other)
    (gives : GivesOut next other items) : GivesOut next state items := by
  cases gives with
  | nil nothing still => exact .nil (same.trans nothing) still
  | cons first others => exact .cons (same.trans first) others

/-- The answers are the items one after another, then nothing ever after. -/
theorem answer_eq (gives : GivesOut next state items) (call : Nat) :
    answer next state call = items[call]? := by
  induction gives generalizing call with
  | nil nothing still =>
    rw [List.getElem?_nil]
    cases call with
    | zero => rw [answer, nothing]
    | succ call => rw [answer, nothing, answer_ended still]
  | cons first others ih =>
    cases call with
    | zero => rw [answer, first, List.getElem?_cons_zero]
    | succ call => rw [answer, first, List.getElem?_cons_succ, ih]

/-- A reader that gives out its items has no item at some call. -/
theorem exists_answer_eq_none (gives : GivesOut next state items) :
    ∃ call, answer next state call = none :=
  ⟨items.length, by rw [gives.answer_eq, List.getElem?_eq_none (Nat.le_refl _)]⟩

/-- A reader gives out one list of items only. -/
theorem items_eq {others : List Item} (gives : GivesOut next state items)
    (alsoGives : GivesOut next state others) : items = others := by
  refine List.ext_getElem? fun call => ?_
  rw [← gives.answer_eq, ← alsoGives.answer_eq]

/-- Asking so many times collects the first so many items. -/
theorem pull_eq_take (gives : GivesOut next state items) (limit : Nat) :
    pull next limit state = items.take limit := by
  induction gives generalizing limit with
  | nil nothing still =>
    cases limit with
    | zero => rfl
    | succ limit => rw [pull, nothing, List.take_nil]
  | cons first others ih =>
    cases limit with
    | zero => rfl
    | succ limit =>
      rw [pull, first, List.take_succ_cons]
      exact congrArg _ (ih limit)

/-- Asking as often as there are items collects them all. -/
theorem pull_eq (gives : GivesOut next state items) {limit : Nat}
    (enough : items.length ≤ limit) : pull next limit state = items := by
  rw [gives.pull_eq_take, List.take_of_length_le enough]

end GivesOut

end Downlink
