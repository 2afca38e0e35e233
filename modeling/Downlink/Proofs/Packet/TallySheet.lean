/-
**Counting packets check by check.**

A machine keeps the counts of the APIDs in one table and their last sequence counts in another one
(`TallySheet`), and checks every sum on its way. It counts packets until a total has outgrown its
word: the counts of an APID are never greater than the totals, and the packets that are missing
between two sequence counts are always in range.

* `Summary.Accounts.entry_le`, `Summary.Fits.of_addAll`: why only the totals matter, and only those
  in the end;
* `TallySheet.add_eq_ok_iff`: when one more packet is counted, and how;
* `TallySheet.Represents`: the two tables together hold what the summary does;
* `TallySheet.Represents.add`: they do so after one more packet;
* `TallySheet.Represents.addAll_of_fits`, `TallySheet.Represents.addAll`: and after all packets;
* `Summary.addAll_accounts`: what the totals and the counts of the APIDs are in the end.
-/

import Std.Data.HashMap
import Downlink.Proofs.Packet.Accounts

namespace Downlink

/-- The counts of one APID, without the last sequence count. -/
structure Tally where
  count : Nat := 0
  bytes : Nat := 0
  missing : Nat := 0
  firstTime42 : Option Nat := none
  lastTime42 : Option Nat := none

/-- The counts of all packets and, in two tables, of the packets of each APID. -/
structure TallySheet where
  count : Nat := 0
  bytes : Nat := 0
  missing : Nat := 0
  apids : Std.HashMap Nat Tally := ∅
  lastSequence : Std.HashMap Nat Nat := ∅

namespace Tally

/-- Counts one more packet, but for the packets that are missing before it. -/
def add (tally : Tally) (view : PacketView) : Except Breach Tally := do
  let count ← checkedSum tally.count 1
  let bytes ← checkedSum tally.bytes view.data.length
  let counted := { tally with count, bytes }
  if 0 < view.time42 then
    return { counted with
      firstTime42 := some (tally.firstTime42.elim view.time42 (min · view.time42))
      lastTime42 := some (tally.lastTime42.elim view.time42 (max · view.time42)) }
  else return counted

end Tally

namespace TallySheet

/-- Counts one more packet. -/
def add (sheet : TallySheet) (view : PacketView) : Except Breach TallySheet := do
  let apid := view.header.apid
  let sequenceCount := view.header.sequenceCount
  let count ← checkedSum sheet.count 1
  let bytes ← checkedSum sheet.bytes view.data.length
  let tally ← (sheet.apids.getD apid {}).add view
  let lastSequence := sheet.lastSequence.insert apid sequenceCount
  match sheet.lastSequence[apid]? with
  | none =>
    return { sheet with count, bytes, apids := sheet.apids.insert apid tally, lastSequence }
  | some last =>
    let between ← Breach.overflow.ensureSome (PacketField.missing? sequenceCount last)
    let tallied ← checkedSum tally.missing between
    let missing ← checkedSum sheet.missing between
    let apids := sheet.apids.insert apid { tally with missing := tallied }
    return { count, bytes, missing, apids, lastSequence }

/-- Counts packets one after another. -/
def addAll (sheet : TallySheet) (views : List PacketView) : Except Breach TallySheet :=
  views.foldlM add sheet

end TallySheet

/-! ### Totals that fit -/

namespace Summary

variable {summary after : Summary} {seen views : List PacketView} {view : PacketView}

/-- No total has outgrown its word. -/
structure Fits (summary : Summary) : Prop where
  count : summary.count < sizeBound
  bytes : summary.bytes < sizeBound
  missing : summary.missing < sizeBound

/-- All that happens when one more packet is counted. -/
theorem exists_of_add (added : summary.add view = .ok after) :
    ∃ missing,
      (summary.entry view.header.apid).missingBefore view.header.sequenceCount = .ok missing ∧
      after = {
        count := summary.count + 1
        bytes := summary.bytes + view.data.length
        missing := summary.missing + missing
        apids := setEntry view.header.apid
          ((summary.entry view.header.apid).add view missing) summary.apids } := by
  obtain ⟨missing, before, done⟩ := bind_ok_cases added
  exact ⟨missing, before, (Except.ok.inj done).symm⟩

/-- Totals only grow: those that fit in the end have fitted before. -/
theorem Fits.of_add (fits : after.Fits) (added : summary.add view = .ok after) : summary.Fits := by
  obtain ⟨missing, _, rfl⟩ := exists_of_add added
  exact ⟨Nat.lt_of_le_of_lt (Nat.le_add_right _ _) fits.count,
    Nat.lt_of_le_of_lt (Nat.le_add_right _ _) fits.bytes,
    Nat.lt_of_le_of_lt (Nat.le_add_right _ _) fits.missing⟩

theorem Fits.of_addAll (fits : after.Fits) (all : summary.addAll views = .ok after) :
    summary.Fits := by
  induction views generalizing summary with
  | nil => exact Except.ok.inj all ▸ fits
  | cons view views ih =>
    rw [addAll, List.foldlM_cons] at all
    obtain ⟨next, added, rest⟩ := bind_ok_cases all
    exact (ih rest).of_add added

/-- The counts of an APID are never greater than the totals. -/
theorem Accounts.entry_le (accounts : summary.Accounts seen) (apid : Nat) :
    (summary.entry apid).count ≤ summary.count ∧ (summary.entry apid).bytes ≤ summary.bytes ∧
      (summary.entry apid).missing ≤ summary.missing := by
  rw [accounts.count, accounts.bytes, accounts.missing, entry]
  cases found : summary.apids.lookup apid with
  | none => exact ⟨Nat.zero_le _, Nat.zero_le _, Nat.zero_le _⟩
  | some entry =>
    exact ⟨count_le_total (·.count) found, count_le_total (·.bytes) found,
      count_le_total (·.missing) found⟩

end Summary

namespace ApidSummary

/-- The counts without the last sequence count. -/
def tally (summary : ApidSummary) : Tally where
  count := summary.count
  bytes := summary.bytes
  missing := summary.missing
  firstTime42 := summary.firstTime42
  lastTime42 := summary.lastTime42

variable {summary : ApidSummary} {current missing : Nat}

/-- Nothing is missing before the first packet. -/
theorem missing_of_first (first : summary.lastSequenceCount = none)
    (before : summary.missingBefore current = .ok missing) : missing = 0 := by
  rw [missingBefore, first] at before
  exact (Except.ok.inj before).symm

theorem missing?_of_known {last : Nat} (known : summary.lastSequenceCount = some last)
    (before : summary.missingBefore current = .ok missing) :
    PacketField.missing? current last = some missing := by
  rw [missingBefore, known] at before
  dsimp only at before
  cases between : PacketField.missing? current last with
  | none =>
    rw [between] at before
    cases before
  | some _ =>
    rw [between] at before
    exact congrArg some (Except.ok.inj before)

/-- Where the sums fit, a tally grows as the counts do when nothing is missing. -/
theorem tally_add_bind_eq_ok_iff {Result : Type} {view : PacketView}
    {next : Tally → Except Breach Result} {result : Result} :
    (summary.tally.add view >>= next) = .ok result ↔
      summary.count + 1 < sizeBound ∧ summary.bytes + view.data.length < sizeBound ∧
        next (summary.add view 0).tally = .ok result := by
  have same : (summary.add view 0).tally =
      if 0 < view.time42 then {
        count := summary.count + 1
        bytes := summary.bytes + view.data.length
        missing := summary.missing
        firstTime42 := some (summary.firstTime42.elim view.time42 (min · view.time42))
        lastTime42 := some (summary.lastTime42.elim view.time42 (max · view.time42)) }
      else { summary.tally with
        count := summary.count + 1
        bytes := summary.bytes + view.data.length } := by
    by_cases timed : 0 < view.time42
    · have pick (known : Option Nat) (least : Nat → Nat → Nat) :
          (known.map (least · view.time42)).getD view.time42 =
            known.elim view.time42 (least · view.time42) := by
        cases known with
        | none => rfl
        | some time => rfl
      rw [if_pos timed]
      simp [tally, add, Nat.ne_of_gt timed, pick]
    · have untimed : view.time42 = 0 := Nat.eq_zero_of_not_pos timed
      rw [if_neg timed]
      simp [tally, add, untimed]
  unfold Tally.add
  rw [bind_assoc, checkedSum_bind_eq_ok_iff, bind_assoc, checkedSum_bind_eq_ok_iff, same]
  by_cases timed : 0 < view.time42
  · rw [if_pos timed, if_pos timed]
    rfl
  · rw [if_neg timed, if_neg timed]
    rfl

end ApidSummary

namespace TallySheet

open Summary (Accounts)

/-- The two tables together hold what the summary does. -/
structure Represents (sheet : TallySheet) (summary : Summary) : Prop where
  count : sheet.count = summary.count
  bytes : sheet.bytes = summary.bytes
  missing : sheet.missing = summary.missing
  apids : ∀ apid, sheet.apids[apid]? = (summary.apids.lookup apid).map ApidSummary.tally
  lastSequence : ∀ apid, sheet.lastSequence[apid]? = (summary.entry apid).lastSequenceCount

variable {sheet : TallySheet} {summary after : Summary} {seen views : List PacketView}
  {view : PacketView}

theorem Represents.fresh : Represents {} {} :=
  ⟨rfl, rfl, rfl, fun _ => Std.HashMap.getElem?_empty, fun _ => Std.HashMap.getElem?_empty⟩

theorem Represents.tally_eq (represents : sheet.Represents summary) (apid : Nat) :
    sheet.apids.getD apid {} = (summary.entry apid).tally := by
  rw [Std.HashMap.getD_eq_getD_getElem?, represents.apids, Summary.entry]
  cases summary.apids.lookup apid with
  | none => rfl
  | some entry => rfl

/-- The sheet with one more packet, of an APID with these counts, before which so many are
missing. -/
def withPacket (sheet : TallySheet) (view : PacketView) (entry : ApidSummary) (missing : Nat) :
    TallySheet where
  count := sheet.count + 1
  bytes := sheet.bytes + view.data.length
  missing := sheet.missing + missing
  apids := sheet.apids.insert view.header.apid (entry.add view missing).tally
  lastSequence := sheet.lastSequence.insert view.header.apid view.header.sequenceCount

/-- A sheet whose two tables hold the counts of an APID counts one more packet of it as long as the
totals fit; the counts of the APID, which are not greater, fit with them. -/
theorem add_eq_ok_iff {entry : ApidSummary} {missing : Nat} {next : TallySheet}
    (tally : sheet.apids.getD view.header.apid {} = entry.tally)
    (last : sheet.lastSequence[view.header.apid]? = entry.lastSequenceCount)
    (before : entry.missingBefore view.header.sequenceCount = .ok missing)
    (within : entry.count ≤ sheet.count ∧ entry.bytes ≤ sheet.bytes ∧
      entry.missing ≤ sheet.missing)
    (fits : sheet.missing < sizeBound) :
    sheet.add view = .ok next ↔
      (sheet.count + 1 < sizeBound ∧ sheet.bytes + view.data.length < sizeBound ∧
        sheet.missing + missing < sizeBound) ∧ sheet.withPacket view entry missing = next := by
  obtain ⟨countLe, bytesLe, missingLe⟩ := within
  unfold add
  simp only [checkedSum_bind_eq_ok_iff, tally, last, ApidSummary.tally_add_bind_eq_ok_iff]
  cases known : entry.lastSequenceCount with
  | none =>
    obtain rfl := ApidSummary.missing_of_first known before
    constructor
    · rintro ⟨count, bytes, _, _, done⟩
      exact ⟨⟨count, bytes, fits⟩, Except.ok.inj done⟩
    · rintro ⟨⟨count, bytes, _⟩, rfl⟩
      exact ⟨count, bytes, by omega, by omega, rfl⟩
  | some last =>
    dsimp only
    rw [Breach.ensureSome_bind (ApidSummary.missing?_of_known known before),
      checkedSum_bind_eq_ok_iff, checkedSum_bind_eq_ok_iff]
    constructor
    · rintro ⟨count, bytes, _, _, _, all, done⟩
      exact ⟨⟨count, bytes, all⟩, Except.ok.inj done⟩
    · rintro ⟨⟨count, bytes, all⟩, rfl⟩
      have tallied : entry.missing + missing < sizeBound := by omega
      exact ⟨count, bytes, by omega, by omega, tallied, all, rfl⟩

/-- A packet that is counted on the sheet and in the summary keeps them the same. -/
theorem Represents.withPacket (represents : sheet.Represents summary) {missing : Nat}
    (added : after = {
      count := summary.count + 1
      bytes := summary.bytes + view.data.length
      missing := summary.missing + missing
      apids := Summary.setEntry view.header.apid
        ((summary.entry view.header.apid).add view missing) summary.apids }) :
    (sheet.withPacket view (summary.entry view.header.apid) missing).Represents after := by
  subst added
  refine ⟨?_, ?_, ?_, fun apid => ?_, fun apid => ?_⟩
  · exact congrArg (· + 1) represents.count
  · exact congrArg (· + view.data.length) represents.bytes
  · exact congrArg (· + missing) represents.missing
  · unfold TallySheet.withPacket
    rw [Std.HashMap.getElem?_insert, Summary.lookup_setEntry, represents.apids]
    by_cases own : apid = view.header.apid
    · rw [if_pos (beq_iff_eq.mpr own.symm), if_pos own]
      rfl
    · rw [if_neg (mt beq_iff_eq.mp (Ne.symm own)), if_neg own]
  · unfold TallySheet.withPacket Summary.entry
    rw [Std.HashMap.getElem?_insert, Summary.lookup_setEntry, represents.lastSequence]
    by_cases own : apid = view.header.apid
    · rw [if_pos (beq_iff_eq.mpr own.symm), if_pos own]
      rfl
    · rw [if_neg (mt beq_iff_eq.mp (Ne.symm own)), if_neg own]
      rfl

/-- One more packet is counted on the sheet as it is in the summary, as long as the totals fit. -/
theorem Represents.add (represents : sheet.Represents summary) (accounts : summary.Accounts seen)
    (fits : summary.Fits) (added : summary.add view = .ok after) :
    (after.Fits → ∃ next, sheet.add view = .ok next) ∧
      ∀ next, sheet.add view = .ok next → after.Fits ∧ next.Represents after := by
  obtain ⟨missing, before, counted⟩ := Summary.exists_of_add added
  have within := accounts.entry_le view.header.apid
  rw [← represents.count, ← represents.bytes, ← represents.missing] at within
  have step (next : TallySheet) : sheet.add view = .ok next ↔ _ :=
    add_eq_ok_iff (represents.tally_eq view.header.apid)
      (represents.lastSequence view.header.apid) before within
      (represents.missing ▸ fits.missing)
  have sums : (sheet.count + 1 < sizeBound ∧ sheet.bytes + view.data.length < sizeBound ∧
      sheet.missing + missing < sizeBound) ↔ after.Fits := by
    rw [represents.count, represents.bytes, represents.missing, counted]
    exact ⟨fun ⟨count, bytes, missing⟩ => ⟨count, bytes, missing⟩,
      fun ⟨count, bytes, missing⟩ => ⟨count, bytes, missing⟩⟩
  constructor
  · intro after_fits
    exact ⟨_, (step _).mpr ⟨sums.mpr after_fits, rfl⟩⟩
  · intro next done
    obtain ⟨sums_fit, rfl⟩ := (step next).mp done
    exact ⟨sums.mp sums_fit, represents.withPacket counted⟩

/-- Packets are counted to the last where the totals fit in the end. -/
theorem Represents.addAll_of_fits (represents : sheet.Represents summary)
    (accounts : summary.Accounts seen) (all : summary.addAll views = .ok after)
    (fits : after.Fits) : ∃ final, sheet.addAll views = .ok final := by
  induction views generalizing sheet summary seen with
  | nil => exact ⟨sheet, rfl⟩
  | cons view views ih =>
    rw [Summary.addAll, List.foldlM_cons] at all
    obtain ⟨middle, added, rest⟩ := bind_ok_cases all
    have middle_fits := fits.of_addAll rest
    obtain ⟨counts, counted⟩ := represents.add accounts (middle_fits.of_add added) added
    obtain ⟨next, done⟩ := counts middle_fits
    rw [addAll, List.foldlM_cons, bind_of_ok done]
    exact ih (counted next done).2 (accounts.of_add added) rest

/-- A sheet on which packets were counted to the last has the totals and counts of the summary. -/
theorem Represents.addAll (represents : sheet.Represents summary)
    (accounts : summary.Accounts seen) (fits : summary.Fits)
    (all : summary.addAll views = .ok after) {final : TallySheet}
    (done : sheet.addAll views = .ok final) : after.Fits ∧ final.Represents after := by
  induction views generalizing sheet summary seen with
  | nil =>
    obtain rfl := Except.ok.inj all
    obtain rfl := Except.ok.inj done
    exact ⟨fits, represents⟩
  | cons view views ih =>
    rw [Summary.addAll, List.foldlM_cons] at all
    rw [TallySheet.addAll, List.foldlM_cons] at done
    obtain ⟨middle, added, rest⟩ := bind_ok_cases all
    obtain ⟨next, first, others⟩ := bind_ok_cases done
    obtain ⟨middle_fits, same⟩ := (represents.add accounts fits added).2 next first
    exact ih same (accounts.of_add added) middle_fits rest others

end TallySheet

/-! ### All packets -/

namespace Summary

open PacketView (ofApid)

/-- **The accounts of a summary.** Packets of any APIDs in any order can be counted. The totals are
the sums over the APIDs; exactly the APIDs that were seen have counts, which are those of their own
packets, the same as if only these had been counted. A machine comes to the same counts, and it is
stopped on its way only if a total has outgrown its word. -/
theorem addAll_accounts (views : List PacketView) :
    ∃ summary, addAll {} views = .ok summary ∧ summary.Accounts views ∧
      (∀ apid, ∃ alone, addAll {} (ofApid apid views) = .ok alone ∧
        alone.apids.lookup apid = summary.apids.lookup apid) ∧
      ((∃ sheet, TallySheet.addAll {} views = .ok sheet) ↔ summary.Fits) ∧
      ∀ sheet, TallySheet.addAll {} views = .ok sheet → sheet.Represents summary := by
  obtain ⟨summary, all, accounts⟩ := Accounts.fresh.addAll views
  rw [List.nil_append] at accounts
  have small : Fits {} := ⟨by decide, by decide, by decide⟩
  have machine {sheet : TallySheet} (done : TallySheet.addAll {} views = .ok sheet) :
      summary.Fits ∧ sheet.Represents summary :=
    TallySheet.Represents.fresh.addAll Accounts.fresh small all done
  refine ⟨summary, all, accounts, fun apid => ?_, ⟨?_, ?_⟩, fun sheet done => (machine done).2⟩
  · obtain ⟨alone, own, counted⟩ := Accounts.fresh.addAll (ofApid apid views)
    refine ⟨alone, own, ?_⟩
    rw [List.nil_append] at counted
    rw [accounts.lookup, counted.lookup, PacketView.ofApid_ofApid]
    simp only [PacketView.mem_apids_ofApid]
  · rintro ⟨sheet, done⟩
    exact (machine done).1
  · exact TallySheet.Represents.fresh.addAll_of_fits Accounts.fresh all

/-- Packets of two APIDs; the sequence counts of the first one start again, and two of them are
missing. -/
def wrappingViews : List PacketView :=
  List.filterMap PacketView.of?
    [[0, 5, 0xFF, 0xFF, 0, 0, 1], [0, 7, 0xC0, 9, 0, 0, 1], [0, 5, 0xC0, 2, 0, 0, 1]]

/-- Both the summary and the machine count the two packets as missing. -/
theorem addAll_accounts_wrappingViews :
    ∃ summary sheet, addAll {} wrappingViews = .ok summary ∧ summary.Accounts wrappingViews ∧
      TallySheet.addAll {} wrappingViews = .ok sheet ∧ sheet.Represents summary ∧
      sheet.count = 3 ∧ sheet.bytes = 21 ∧ sheet.missing = 2 := by
  obtain ⟨summary, all, accounts, -, runs, same⟩ := addAll_accounts wrappingViews
  have totals : (addAll {} wrappingViews).toOption.map (fun counted =>
      (counted.count, counted.bytes, counted.missing)) = some (3, 21, 2) := by decide
  rw [all] at totals
  injection Option.some.inj totals with count rest
  injection rest with bytes missing
  have fits : summary.Fits :=
    ⟨by rw [count]; decide, by rw [bytes]; decide, by rw [missing]; decide⟩
  obtain ⟨sheet, done⟩ := runs.mpr fits
  have represents := same sheet done
  exact ⟨summary, sheet, all, accounts, done, represents, represents.count.trans count,
    represents.bytes.trans bytes, represents.missing.trans missing⟩

end Summary

end Downlink
