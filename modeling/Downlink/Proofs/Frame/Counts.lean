/-
**Counts only grow.**

Whatever a channel does, none of its counts becomes less (`ReassemblyStats.Grows`). So counts that
fit their words in the end (`ReassemblyStats.Fits`) have fitted them all along.
-/

import Downlink.Proofs.Frame.Isolation

namespace Downlink

namespace ReassemblyStats

/-- No count has outgrown its word. -/
def Fits (stats : ReassemblyStats) : Prop :=
  ∀ count ∈ counts, count stats < sizeBound

instance (stats : ReassemblyStats) : Decidable stats.Fits :=
  inferInstanceAs (Decidable (∀ count ∈ counts, _))

/-- No count has become less. -/
def Grows (before after : ReassemblyStats) : Prop :=
  ∀ count ∈ counts, count before ≤ count after

variable {first second third : ReassemblyStats}

theorem Grows.trans (earlier : Grows first second) (later : Grows second third) :
    Grows first third :=
  fun count member => Nat.le_trans (earlier count member) (later count member)

/-- Counts that fit have fitted all along. -/
theorem Fits.of_grows (fits : second.Fits) (grows : Grows first second) : first.Fits :=
  fun count member => Nat.lt_of_le_of_lt (grows count member) (fits count member)

end ReassemblyStats

namespace Reassembler

open ReassemblyStats (Grows counts)

variable (reassembler : Reassembler) (spacecraft : Nat)

theorem reset_grows : Grows reassembler.stats reassembler.reset.stats := by
  simp [Grows, counts, reset]

theorem append_grows (bytes : Bytes) :
    Grows reassembler.stats (reassembler.append bytes).stats := by
  unfold append
  split
  · exact reset_grows reassembler
  · exact fun _ _ => Nat.le_refl _

theorem emit_grows : Grows reassembler.stats (reassembler.emit spacecraft).1.stats := by
  unfold emit
  split
  · simp [Grows, counts]
  · simp [Grows, counts]

theorem extract_grows (zone : Bytes) :
    Grows reassembler.stats (reassembler.extract spacecraft zone).1.stats := by
  obtain ⟨packets, rest, emitted, splits, extracted, _⟩ :=
    reassembler.exists_extract spacecraft zone
  rw [extracted]
  simp [Grows, counts]

theorem finish_grows (bytes : Bytes) :
    Grows reassembler.stats (reassembler.finish spacecraft bytes).1.stats := by
  unfold finish
  split
  · simp [Grows, counts]
  · dsimp only
    split
    · exact (append_grows reassembler bytes).trans (emit_grows _ spacecraft)
    · exact append_grows reassembler bytes

theorem receive_grows (counter : Nat) (zone : Bytes) (reception : Reception) :
    Grows reassembler.stats (reassembler.receive spacecraft counter zone reception).1.stats := by
  cases reception with
  | unsynced => simp [Grows, counts, receive]
  | idle => simp [Grows, counts, receive]
  | sync offset =>
    exact extract_grows
      { reassembler with state := .running, lastCounter := counter, pending := [] } spacecraft
      (zone.drop offset)
  | gap skipped => simp [Grows, counts, receive, reset]
  | outside => exact reset_grows reassembler
  | continuation => exact append_grows { reassembler with lastCounter := counter } zone
  | boundary offset =>
    exact (finish_grows { reassembler with lastCounter := counter } spacecraft
      (zone.take offset)).trans (extract_grows _ spacecraft (zone.drop offset))

theorem accept_grows (contents : FrameContents) :
    Grows reassembler.stats (reassembler.accept contents).1.stats := by
  have first : Grows reassembler.stats
      { reassembler.stats with frames := reassembler.stats.frames + 1 } := by
    simp [Grows, counts]
  exact first.trans (receive_grows { reassembler with
    stats.frames := reassembler.stats.frames + 1 } _ _ _ _)

end Reassembler

end Downlink
