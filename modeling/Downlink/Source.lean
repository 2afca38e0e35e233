/-
**Sources of bytes.**

A source delivers bytes in pieces of its own choosing and then either ends or fails. What is read
from it does not depend on how the bytes are cut into pieces.

* `Source.readExact` takes exactly so many bytes, or tells how the source ended instead;
* `pull` asks a reader for one item after another.
-/

import Downlink.Bytes

namespace Downlink

/-- How a source stops delivering. -/
inductive Ending
  /-- There are no more bytes. -/
  | complete
  /-- Reading on fails. -/
  | failed (reason : String)
  deriving DecidableEq, Repr

/-- A source of bytes. -/
structure Source where
  /-- What successive reads deliver. -/
  pieces : List Bytes
  /-- What happens when everything has been delivered. -/
  ending : Ending
  deriving DecidableEq, Repr

namespace Source

/-- Cuts bytes into pieces of at most `size + 1` bytes. -/
def cut (size : Nat) (bytes : Bytes) : List Bytes :=
  if bytes.isEmpty then [] else bytes.take (size + 1) :: cut size (bytes.drop (size + 1))
termination_by bytes.length
decreasing_by
  cases bytes with
  | nil => simp_all
  | cons => simp only [List.length_drop, List.length_cons]; omega

/-- A source that delivers at most `limit` bytes at a time and fails once `failAfter` bytes have
been delivered and more are asked for. With a limit of 0 it delivers nothing. -/
def limited (bytes : Bytes) (limit : Option Nat) (failAfter : Option (Nat × String)) : Source :=
  let available := if limit = some 0 then [] else bytes
  let (delivered, ending) : Bytes × Ending := match failAfter with
    | some (count, reason) =>
      if count ≤ available.length then (available.take count, .failed reason)
      else (available, .complete)
    | none => (available, .complete)
  match limit with
  | some (size + 1) => ⟨cut size delivered, ending⟩
  | _ => ⟨[delivered], ending⟩

/-- How many bytes the source still has. -/
def remaining (source : Source) : Nat :=
  source.pieces.flatten.length

/-- The first `count` bytes of the pieces and the pieces without them, if there are so many. -/
def gather? : Nat → List Bytes → Option (Bytes × List Bytes)
  | 0, pieces => some ([], pieces)
  | _ + 1, [] => none
  | count + 1, piece :: rest =>
    if count + 1 < piece.length then
      some (piece.take (count + 1), piece.drop (count + 1) :: rest)
    else
      (gather? (count + 1 - piece.length) rest).map fun (bytes, left) => (piece ++ bytes, left)

/-- The next `count` bytes and the source after them, or how the source ended before it had
delivered so many. -/
def readExact (source : Source) (count : Nat) : Except Ending (Bytes × Source) :=
  match gather? count source.pieces with
  | some (bytes, pieces) => .ok (bytes, { source with pieces })
  | none => .error source.ending

end Source

/-- Asks a reader for items until it has no more, but not more than `limit` times. -/
def pull {State Item : Type} (next : State → Option Item × State) : Nat → State → List Item
  | 0, _ => []
  | limit + 1, state =>
    match next state with
    | (none, _) => []
    | (some item, state) => item :: pull next limit state

end Downlink
