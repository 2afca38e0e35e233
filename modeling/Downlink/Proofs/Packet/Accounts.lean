/-
**What a summary says.**

However the packets of the APIDs are interleaved, each APID has the counts of its own packets
(`ApidSummary.ofPackets`): how many they are, how long they are, how many are missing between each
and the one before it, and the least and the greatest of their times. The totals are the sums over
the APIDs that were seen (`Summary.Accounts`).

* `PacketField.missing?_eq`: the packets between two sequence counts, going up and starting again
  behind the greatest one;
* `ApidSummary.missingBefore_ofPackets`, `ApidSummary.add_ofPackets`: one more packet of an APID;
* `Summary.lookup_setEntry`, `Summary.keys_setEntry`, `Summary.total_setEntry`: an entry that is put
  in place, for the other entries, for the APIDs and for a total;
* `Summary.Accounts.add`, `Summary.Accounts.addAll`: one more packet, and all packets.
-/

import Downlink.Packet.Summary
import Downlink.Proofs.Checks
import Downlink.Proofs.Packet.Header
import Mathlib.Algebra.GroupWithZero.Nat

namespace Downlink

/-! ### Sequence counts -/

namespace PacketField

/-- How many sequence counts lie between one and the next, when they start again behind the
greatest. -/
def missingBetween (last current : Nat) : Nat :=
  (((current : Int) - last - 1) % 2 ^ 14).toNat

/-- Sequence counts of 14 bits stay in the range of 16-bit arithmetic, and the packets between them
are counted across the end of the range. -/
theorem missing?_eq {current last : Nat} (currentLt : current < 0x4000) (lastLt : last < 0x4000) :
    missing? current last = some (missingBetween last current) := by
  unfold missing? missingBetween lastSequenceCount
  rw [if_neg (show ¬ 0x10000 ≤ last + 1 by omega)]
  dsimp only
  by_cases next : current = if 16383 < last + 1 then 0 else last + 1
  · rw [if_pos next]
    split at next
    · exact congrArg some (by omega)
    · exact congrArg some (by omega)
  · rw [if_neg next]
    split at next
    · rw [if_pos (by omega), if_neg (by omega)]
      exact congrArg some (by omega)
    · by_cases back : current < last + 1
      · rw [if_pos back, if_neg (by omega)]
        exact congrArg some (by omega)
      · rw [if_neg back]
        exact congrArg some (by omega)

/-- How many sequence counts are missing between each of these and the next one. -/
def skipped (counts : List Nat) : List Nat :=
  counts.zipWith missingBetween counts.tail

/-- How many sequence counts are missing between the last of these and one behind it. -/
def missingSince (counts : List Nat) (current : Nat) : Nat :=
  (counts.getLast?.map (missingBetween · current)).getD 0

theorem sum_skipped_concat (counts : List Nat) (current : Nat) :
    (skipped (counts ++ [current])).sum = (skipped counts).sum + missingSince counts current := by
  induction counts with
  | nil => rfl
  | cons first counts ih =>
    cases counts with
    | nil => simp [skipped, missingSince]
    | cons second rest =>
      have head (others : List Nat) : (skipped (first :: second :: others)).sum =
          missingBetween first second + (skipped (second :: others)).sum := rfl
      have last : missingSince (first :: second :: rest) current =
          missingSince (second :: rest) current := by
        rw [missingSince, missingSince, List.getLast?_cons_cons]
      rw [last, head, Nat.add_assoc, ← ih]
      rfl

end PacketField

/-! ### Times -/

theorem min?_concat (times : List Nat) (time : Nat) :
    (times ++ [time]).min? = some ((times.min?.map (min · time)).getD time) := by
  cases times with
  | nil => rfl
  | cons first times =>
    show some ((times ++ [time]).foldl min first) = _
    rw [List.foldl_append]
    rfl

theorem max?_concat (times : List Nat) (time : Nat) :
    (times ++ [time]).max? = some ((times.max?.map (max · time)).getD time) := by
  cases times with
  | nil => rfl
  | cons first times =>
    show some ((times ++ [time]).foldl max first) = _
    rw [List.foldl_append]
    rfl

namespace PacketView

/-- The sequence counts of packets. -/
def sequenceCounts (views : List PacketView) : List Nat :=
  views.map (·.header.sequenceCount)

/-- The times of the packets that have one. -/
def times (views : List PacketView) : List Nat :=
  (views.map time42).filter (· ≠ 0)

/-- The packets of one APID. -/
def ofApid (apid : Nat) (views : List PacketView) : List PacketView :=
  views.filter (·.header.apid = apid)

variable {apid : Nat} {views : List PacketView} {view : PacketView}

theorem sequenceCount_lt (view : PacketView) : view.header.sequenceCount < 0x4000 :=
  (PrimaryHeader.inRange_of_decode? view.decoded).sequenceCount

theorem times_concat (views : List PacketView) (view : PacketView) :
    times (views ++ [view]) = times views ++ if view.time42 = 0 then [] else [view.time42] := by
  by_cases untimed : view.time42 = 0
  · simp [times, untimed]
  · simp [times, untimed]

/-- A packet without a time leaves the best one as it is. -/
theorem best_times_concat {best : List Nat → Option Nat} {pick : Nat → Nat → Nat}
    (concat : ∀ times time, best (times ++ [time]) =
      some (((best times).map (pick · time)).getD time)) :
    best (times (views ++ [view])) =
      if view.time42 = 0 then best (times views)
      else some (((best (times views)).map (pick · view.time42)).getD view.time42) := by
  rw [times_concat]
  split
  · rw [List.append_nil]
  · exact concat _ _

theorem ofApid_concat_self (own : view.header.apid = apid) :
    ofApid apid (views ++ [view]) = ofApid apid views ++ [view] := by
  simp [ofApid, own]

theorem ofApid_concat_other (foreign : view.header.apid ≠ apid) :
    ofApid apid (views ++ [view]) = ofApid apid views := by
  simp [ofApid, foreign]

theorem ofApid_ofApid (apid : Nat) (views : List PacketView) :
    ofApid apid (ofApid apid views) = ofApid apid views := by
  simp [ofApid]

theorem mem_apids_ofApid :
    apid ∈ (ofApid apid views).map (·.header.apid) ↔ apid ∈ views.map (·.header.apid) := by
  simp [ofApid]

theorem ofApid_eq_nil (unseen : apid ∉ views.map (·.header.apid)) : ofApid apid views = [] :=
  List.filter_eq_nil_iff.mpr fun view member own =>
    unseen (List.mem_map.mpr ⟨view, member, of_decide_eq_true own⟩)

end PacketView

/-! ### The packets of one APID -/

namespace ApidSummary

open PacketField (missingSince)
open PacketView (sequenceCounts times)

/-- The counts of packets of one APID. -/
def ofPackets (views : List PacketView) : ApidSummary where
  count := views.length
  bytes := (views.map (·.data.length)).sum
  missing := (PacketField.skipped (sequenceCounts views)).sum
  firstTime42 := (times views).min?
  lastTime42 := (times views).max?
  lastSequenceCount := (sequenceCounts views).getLast?

variable (views : List PacketView) (view : PacketView)

/-- The number of packets missing before one more packet never leaves its range. -/
theorem missingBefore_ofPackets :
    (ofPackets views).missingBefore view.header.sequenceCount =
      .ok (missingSince (sequenceCounts views) view.header.sequenceCount) := by
  have known : (ofPackets views).lastSequenceCount = (sequenceCounts views).getLast? := rfl
  rw [missingBefore, missingSince, known]
  cases final : (sequenceCounts views).getLast? with
  | none => rfl
  | some last =>
    obtain ⟨before, _, rfl⟩ := List.mem_map.mp (List.mem_of_getLast? final)
    simp only [PacketField.missing?_eq view.sequenceCount_lt before.sequenceCount_lt]
    rfl

theorem add_ofPackets :
    (ofPackets views).add view (missingSince (sequenceCounts views) view.header.sequenceCount) =
      ofPackets (views ++ [view]) := by
  have counts : sequenceCounts (views ++ [view]) =
      sequenceCounts views ++ [view.header.sequenceCount] := List.map_append
  have bytes : ((views ++ [view]).map (·.data.length)).sum =
      (views.map (·.data.length)).sum + view.data.length := by simp
  unfold ofPackets
  rw [counts, bytes, PacketView.best_times_concat min?_concat,
    PacketView.best_times_concat max?_concat, PacketField.sum_skipped_concat,
    List.getLast?_concat, List.length_append]
  rfl

end ApidSummary

/-! ### The entries -/

namespace Summary

open PacketView (ofApid)

/-- The sum of one count over all entries. -/
def total (count : ApidSummary → Nat) (entries : List (Nat × ApidSummary)) : Nat :=
  (entries.map fun (_, entry) => count entry).sum

variable {summary : Summary} {seen : List PacketView}

theorem lookup_entry (wanted known : Nat) (entry : ApidSummary)
    (rest : List (Nat × ApidSummary)) :
    ((known, entry) :: rest).lookup wanted =
      if wanted = known then some entry else rest.lookup wanted := by
  by_cases same : wanted = known
  · rw [same, List.lookup_cons_self, if_pos rfl]
  · rw [List.lookup_cons, beq_false_of_ne same, if_neg same]

theorem lookup_setEntry (apid : Nat) (entry : ApidSummary) (entries : List (Nat × ApidSummary))
    (wanted : Nat) :
    (setEntry apid entry entries).lookup wanted =
      if wanted = apid then some entry else entries.lookup wanted := by
  induction entries with
  | nil => exact lookup_entry wanted apid entry []
  | cons first rest ih =>
    obtain ⟨known, old⟩ := first
    unfold setEntry
    by_cases here : known = apid
    · rw [if_pos here, lookup_entry, lookup_entry, here]
      split
      · rfl
      · rfl
    · rw [if_neg here, lookup_entry, lookup_entry, ih]
      by_cases same : wanted = known
      · rw [if_pos same, if_pos same, if_neg (same ▸ here)]
      · rw [if_neg same, if_neg same]

theorem keys_setEntry (apid : Nat) (entry : ApidSummary) (entries : List (Nat × ApidSummary)) :
    (setEntry apid entry entries).map Prod.fst =
      if apid ∈ entries.map Prod.fst then entries.map Prod.fst
      else entries.map Prod.fst ++ [apid] := by
  induction entries with
  | nil => rfl
  | cons first rest ih =>
    obtain ⟨known, old⟩ := first
    unfold setEntry
    by_cases here : known = apid
    · subst here
      simp
    · rw [if_neg here, List.map_cons, ih]
      have skip : apid ≠ known := fun same => here same.symm
      by_cases later : apid ∈ rest.map Prod.fst
      · simp [later]
      · simp [skip, later]

theorem nodup_setEntry {entries : List (Nat × ApidSummary)} (apid : Nat) (entry : ApidSummary)
    (distinct : (entries.map Prod.fst).Nodup) :
    ((setEntry apid entry entries).map Prod.fst).Nodup := by
  rw [keys_setEntry]
  split
  · exact distinct
  · next absent =>
    refine List.nodup_append.mpr ⟨distinct, List.pairwise_singleton _ apid, ?_⟩
    rintro known member other found rfl
    exact absent (List.mem_singleton.mp found ▸ member)

theorem total_cons (count : ApidSummary → Nat) (apid : Nat) (entry : ApidSummary)
    (rest : List (Nat × ApidSummary)) :
    total count ((apid, entry) :: rest) = count entry + total count rest :=
  rfl

/-- A total changes by what the counts of the entry change, where an entry that was not there has
counted nothing. -/
theorem total_setEntry {count : ApidSummary → Nat} (nothing : count {} = 0) (apid : Nat)
    (entry : ApidSummary) (entries : List (Nat × ApidSummary)) :
    total count (setEntry apid entry entries) + count ((entries.lookup apid).getD {}) =
      total count entries + count entry := by
  induction entries with
  | nil =>
    show count entry + 0 + count {} = 0 + count entry
    omega
  | cons first rest ih =>
    obtain ⟨known, old⟩ := first
    unfold setEntry
    by_cases here : known = apid
    · rw [if_pos here, lookup_entry, if_pos here.symm, Option.getD_some, total_cons, total_cons]
      omega
    · rw [if_neg here, lookup_entry, if_neg (Ne.symm here), total_cons, total_cons]
      omega

theorem count_le_total {entries : List (Nat × ApidSummary)} {apid : Nat} {entry : ApidSummary}
    (count : ApidSummary → Nat) (found : entries.lookup apid = some entry) :
    count entry ≤ total count entries := by
  induction entries with
  | nil => cases found
  | cons first rest ih =>
    obtain ⟨known, old⟩ := first
    rw [total_cons]
    rw [lookup_entry] at found
    split at found
    · obtain rfl := Option.some.inj found
      exact Nat.le_add_right _ _
    · exact Nat.le_trans (ih found) (Nat.le_add_left _ _)

/-! ### All packets -/

/-- Counts packets one after another. -/
def addAll (summary : Summary) (views : List PacketView) : Except Breach Summary :=
  views.foldlM add summary

/-- What a summary says of the packets that it has counted. -/
structure Accounts (summary : Summary) (views : List PacketView) : Prop where
  count : summary.count = total (·.count) summary.apids
  bytes : summary.bytes = total (·.bytes) summary.apids
  missing : summary.missing = total (·.missing) summary.apids
  /-- No APID has two entries. -/
  distinct : (summary.apids.map Prod.fst).Nodup
  /-- Exactly the APIDs that were seen have an entry, which counts their own packets. -/
  lookup : ∀ apid, summary.apids.lookup apid =
    if apid ∈ views.map (·.header.apid) then some (ApidSummary.ofPackets (ofApid apid views))
    else none

theorem Accounts.fresh : Accounts {} [] :=
  ⟨rfl, rfl, rfl, List.nodup_nil, fun _ => rfl⟩

/-- Seen or not, the counts of an APID are those of its packets. -/
theorem Accounts.entry_eq (accounts : summary.Accounts seen) (apid : Nat) :
    summary.entry apid = ApidSummary.ofPackets (ofApid apid seen) := by
  rw [entry, accounts.lookup]
  split
  · rfl
  · next unseen =>
    rw [PacketView.ofApid_eq_nil unseen]
    rfl

/-- The APIDs that were seen, with one more packet. -/
theorem mem_apids_concat {apid : Nat} {view : PacketView} :
    apid ∈ (seen ++ [view]).map (·.header.apid) ↔
      apid ∈ seen.map (·.header.apid) ∨ apid = view.header.apid := by
  simp

/-- One more packet is counted for its own APID, and the other APIDs stay as they are. -/
theorem Accounts.add (accounts : summary.Accounts seen) (view : PacketView) :
    ∃ after, summary.add view = .ok after ∧ after.Accounts (seen ++ [view]) := by
  let apid := view.header.apid
  let before := ApidSummary.ofPackets (ofApid apid seen)
  let missing := PacketField.missingSince (PacketView.sequenceCounts (ofApid apid seen))
    view.header.sequenceCount
  let counted := before.add view missing
  have own : summary.entry apid = before := accounts.entry_eq apid
  have grown : counted = ApidSummary.ofPackets (ofApid apid (seen ++ [view])) := by
    rw [PacketView.ofApid_concat_self rfl]
    exact ApidSummary.add_ofPackets _ view
  have added : summary.add view = .ok
      { count := summary.count + 1
        bytes := summary.bytes + view.data.length
        missing := summary.missing + missing
        apids := setEntry apid counted summary.apids } := by
    unfold Summary.add
    rw [own]
    exact bind_of_ok (ApidSummary.missingBefore_ofPackets _ view) _
  -- A total grows by what the entry of the packet's APID does.
  have sum {count : ApidSummary → Nat} (nothing : count {} = 0) {more : Nat}
      (more_eq : count counted = count before + more) :
      total count summary.apids + more = total count (setEntry apid counted summary.apids) := by
    have change := total_setEntry nothing apid counted summary.apids
    have old : (summary.apids.lookup apid).getD {} = before := own
    rw [old] at change
    omega
  refine ⟨_, added, ?_, ?_, ?_, nodup_setEntry apid counted accounts.distinct, fun wanted => ?_⟩
  · rw [accounts.count]
    exact sum rfl rfl
  · rw [accounts.bytes]
    exact sum rfl rfl
  · rw [accounts.missing]
    exact sum rfl rfl
  · dsimp only
    rw [lookup_setEntry, accounts.lookup, grown]
    by_cases same : wanted = apid
    · rw [if_pos same, if_pos (mem_apids_concat.mpr (.inr same)), same]
    · have seen_iff : wanted ∈ (seen ++ [view]).map (·.header.apid) ↔
          wanted ∈ seen.map (·.header.apid) :=
        mem_apids_concat.trans (or_iff_left same)
      rw [if_neg same, PacketView.ofApid_concat_other (Ne.symm same)]
      simp only [seen_iff]

theorem Accounts.of_add {view : PacketView} {after : Summary} (accounts : summary.Accounts seen)
    (added : summary.add view = .ok after) : after.Accounts (seen ++ [view]) := by
  obtain ⟨counted, same, grown⟩ := accounts.add view
  exact Except.ok.inj (same.symm.trans added) ▸ grown

/-- **Packets that come in any order are counted for their own APIDs.** -/
theorem Accounts.addAll (accounts : summary.Accounts seen) (views : List PacketView) :
    ∃ after, summary.addAll views = .ok after ∧ after.Accounts (seen ++ views) := by
  induction views generalizing summary seen with
  | nil => exact ⟨summary, rfl, (List.append_nil seen).symm ▸ accounts⟩
  | cons view views ih =>
    obtain ⟨next, added, counted⟩ := accounts.add view
    obtain ⟨after, rest, all⟩ := ih counted
    refine ⟨after, ?_, ?_⟩
    · rw [addAll, List.foldlM_cons, bind_of_ok added]
      exact rest
    · rw [List.append_assoc] at all
      exact all

end Summary

end Downlink
