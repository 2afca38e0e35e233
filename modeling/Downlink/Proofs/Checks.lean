/-
**Checks.**

A machine adds up places and counts in words of a fixed size, and asks a buffer for the bytes from
one place to another. It stops for good at the first sum that does not fit its word, difference
below zero, or byte that is not there. A calculation with all its checks has a `Breach` where the
machine would stop:

* `Breach.ensure` goes on where a condition holds, `Breach.ensureSome` where there is a value;
* `checkedSum` adds two counts;
* `Bytes.checkedBetween` asks for the bytes from one place to another.

A check that holds can be left out (`Breach.ensure_bind`, `Breach.ensureSome_bind`,
`Bytes.checkedBetween_eq`), and one that fails is where the calculation ends
(`Breach.ensure_bind_of_not`, `checkedSum_bind_eq_ok_iff`).
-/

import Downlink.Error

namespace Downlink

/-! ### Steps that may fail -/

section Bind

variable {Fault Value Result : Type} {answer : Except Fault Value}

theorem bind_error_cases {next : Value → Except Fault Result} {fault : Fault}
    (failed : (answer >>= next) = .error fault) :
    answer = .error fault ∨ ∃ value, answer = .ok value ∧ next value = .error fault := by
  cases answer with
  | error =>
    obtain rfl := Except.error.inj failed
    exact .inl rfl
  | ok value => exact .inr ⟨value, rfl, failed⟩

theorem bind_ok_cases {next : Value → Except Fault Result} {result : Result}
    (done : (answer >>= next) = .ok result) :
    ∃ value, answer = .ok value ∧ next value = .ok result := by
  cases answer with
  | error => cases done
  | ok value => exact ⟨value, rfl, done⟩

theorem exists_of_isOk (done : answer.isOk = true) : ∃ value, answer = .ok value := by
  cases answer with
  | error => cases done
  | ok value => exact ⟨value, rfl⟩

/-- Only the first of two steps can have failed when the second one never does. -/
theorem bind_pure_error {result : Value → Result} {fault : Fault}
    (failed : (answer >>= fun value => pure (result value)) = .error fault) :
    answer = .error fault := by
  rcases bind_error_cases failed with first | ⟨_, _, second⟩
  · exact first
  · cases second

end Bind

/-! ### Conditions -/

namespace Breach

/-- Goes on only where a condition holds. -/
def ensure (breach : Breach) (condition : Prop) [Decidable condition] : Except Breach Unit :=
  if condition then .ok () else .error breach

/-- Goes on only with a value. -/
def ensureSome {α : Type} (breach : Breach) : Option α → Except Breach α
  | some value => .ok value
  | none => .error breach

variable {α : Type} {breach : Breach}

theorem ensure_bind {condition : Prop} [Decidable condition] (holds : condition)
    (next : Unit → Except Breach α) : (breach.ensure condition >>= next) = next () := by
  rw [ensure, if_pos holds]
  rfl

theorem ensure_bind_of_not {condition : Prop} [Decidable condition] (fails : ¬ condition)
    (next : Unit → Except Breach α) : (breach.ensure condition >>= next) = .error breach := by
  rw [ensure, if_neg fails]
  rfl

theorem ensureSome_bind {β : Type} {value? : Option β} {value : β} (found : value? = some value)
    (next : β → Except Breach α) : (breach.ensureSome value? >>= next) = next value := by
  rw [found]
  rfl

end Breach

theorem ok_bind {α β : Type} (value : α) (next : α → Except Breach β) :
    ((Except.ok value : Except Breach α) >>= next) = next value :=
  rfl

theorem bind_of_ok {α β : Type} {answer : Except Breach α} {value : α} (done : answer = .ok value)
    (next : α → Except Breach β) : (answer >>= next) = next value := by
  rw [done]
  rfl

/-! ### Sums -/

/-- The sum of two counts, which has to fit a word. -/
def checkedSum (first second : Nat) : Except Breach Nat := do
  Breach.overflow.ensure (first + second < sizeBound)
  return first + second

/-- A calculation that adds two counts comes to its end only where the sum fits. -/
theorem checkedSum_bind_eq_ok_iff {α : Type} {first second : Nat} {next : Nat → Except Breach α}
    {result : α} :
    (checkedSum first second >>= next) = .ok result ↔
      first + second < sizeBound ∧ next (first + second) = .ok result := by
  by_cases fits : first + second < sizeBound
  · have sum : checkedSum first second = .ok (first + second) := Breach.ensure_bind fits _
    rw [bind_of_ok sum, and_iff_right fits]
  · have stopped : checkedSum first second = .error .overflow := Breach.ensure_bind_of_not fits _
    rw [stopped]
    exact ⟨nofun, fun done => absurd done.1 fits⟩

/-! ### Places in a buffer -/

namespace Bytes

/-- The bytes from one place to another. -/
def between (bytes : Bytes) (start stop : Nat) : Bytes :=
  (bytes.drop start).take (stop - start)

/-- The bytes from one place to another, which have to be there. -/
def checkedBetween (bytes : Bytes) (start stop : Nat) : Except Breach Bytes := do
  Breach.outOfBounds.ensure (start ≤ stop ∧ stop ≤ bytes.length)
  return bytes.between start stop

variable {bytes : Bytes} {start middle stop : Nat}

theorem checkedBetween_eq (forward : start ≤ stop) (inside : stop ≤ bytes.length) :
    bytes.checkedBetween start stop = .ok (bytes.between start stop) :=
  Breach.ensure_bind ⟨forward, inside⟩ _

theorem length_between (inside : stop ≤ bytes.length) :
    (bytes.between start stop).length = stop - start := by
  rw [between, List.length_take, List.length_drop]
  omega

theorem between_self (bytes : Bytes) (place : Nat) : bytes.between place place = [] := by
  rw [between, Nat.sub_self, List.take_zero]

theorem between_append (first : start ≤ middle) (second : middle ≤ stop) :
    bytes.between start middle ++ bytes.between middle stop = bytes.between start stop := by
  have split : stop - start = (middle - start) + (stop - middle) := by omega
  rw [between, between, between, split, List.take_add, List.drop_drop,
    Nat.add_sub_cancel' first]

theorem take_between (offset : Nat) (inside : start + offset ≤ stop) :
    (bytes.between start stop).take offset = bytes.between start (start + offset) := by
  rw [between, between, List.take_take, Nat.add_sub_cancel_left, Nat.min_eq_left (by omega)]

theorem drop_between (offset : Nat) :
    (bytes.between start stop).drop offset = bytes.between (start + offset) stop := by
  rw [between, between, List.drop_take, List.drop_drop, Nat.sub_add_eq]

end Bytes

end Downlink
