/-
**Counting packets.**

A summary counts packets, their bytes and the packets missing between them, in all and for each
APID. For each APID it also keeps the earliest and the latest time, packets without a time not
counted, and the last sequence count, from which the missing packets are found.

* `Summary.add` counts one more packet.
-/

import Downlink.Packet.View
import Downlink.Error

namespace Downlink

/-- The counts of one APID. -/
structure ApidSummary where
  count : Nat := 0
  bytes : Nat := 0
  missing : Nat := 0
  /-- The least Time42 code other than 0. -/
  firstTime42 : Option Nat := none
  /-- The greatest Time42 code other than 0. -/
  lastTime42 : Option Nat := none
  /-- The sequence count of the packet counted last. -/
  lastSequenceCount : Option Nat := none
  deriving DecidableEq, Repr

/-- The counts of all packets and of the packets of each APID, in the order in which the APIDs were
first seen. -/
structure Summary where
  count : Nat := 0
  bytes : Nat := 0
  missing : Nat := 0
  apids : List (Nat × ApidSummary) := []
  deriving DecidableEq, Repr

namespace ApidSummary

/-- How many packets are missing before one with this sequence count. -/
def missingBefore (summary : ApidSummary) (sequenceCount : Nat) : Except Breach Nat :=
  match summary.lastSequenceCount with
  | none => .ok 0
  | some last =>
    match PacketField.missing? sequenceCount last with
    | some missing => .ok missing
    | none => .error .overflow

/-- Counts one more packet, before which so many are missing. -/
def add (summary : ApidSummary) (view : PacketView) (missing : Nat) : ApidSummary :=
  let times (pick : Nat → Nat → Nat) (known : Option Nat) : Option Nat :=
    if view.time42 = 0 then known else some ((known.map (pick · view.time42)).getD view.time42)
  { count := summary.count + 1
    bytes := summary.bytes + view.data.length
    missing := summary.missing + missing
    firstTime42 := times min summary.firstTime42
    lastTime42 := times max summary.lastTime42
    lastSequenceCount := some view.header.sequenceCount }

end ApidSummary

namespace Summary

/-- The counts of an APID, all zero if no packet of it has been seen. -/
def entry (summary : Summary) (apid : Nat) : ApidSummary :=
  (summary.apids.lookup apid).getD {}

/-- Puts the counts of an APID in place of the old ones, or at the end. -/
def setEntry (apid : Nat) (entry : ApidSummary) :
    List (Nat × ApidSummary) → List (Nat × ApidSummary)
  | [] => [(apid, entry)]
  | (known, old) :: rest =>
    if known = apid then (apid, entry) :: rest else (known, old) :: setEntry apid entry rest

/-- Counts one more packet. -/
def add (summary : Summary) (view : PacketView) : Except Breach Summary := do
  let entry := summary.entry view.header.apid
  let missing ← entry.missingBefore view.header.sequenceCount
  return {
    count := summary.count + 1
    bytes := summary.bytes + view.data.length
    missing := summary.missing + missing
    apids := setEntry view.header.apid (entry.add view missing) summary.apids }

end Summary

end Downlink
