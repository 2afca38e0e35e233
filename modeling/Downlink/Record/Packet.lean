/-
**Packets as records.**

The written form of headers, packets and summaries. A summary is written without the sequence counts
that were seen last, so that one which is read again counts no packets as missing before the next.
-/

import Downlink.Packet.Summary
import Downlink.Record.Json.Number
import Downlink.Record.Reader

namespace Downlink

open Record (Reader Row Value)

namespace PrimaryHeader

/-- The header as a record. -/
def toValue (header : PrimaryHeader) : Value :=
  .fields [
    ("version", .ofNat header.version),
    ("type_flag", .ofNat header.typeFlag),
    ("has_secondary_header", .boolean header.hasSecondaryHeader),
    ("apid", .ofNat header.apid),
    ("sequence_flags", .ofNat header.sequenceFlags),
    ("sequence_id", .ofNat header.sequenceCount),
    ("len_minus1", .ofNat header.lengthField)]

/-- Reads a header. -/
def ofValue? : Reader PrimaryHeader := fun value => do
  let row ← Row.open? 7 value
  return {
    version := ← row.required 0 "version" (Value.unsigned? 8)
    typeFlag := ← row.required 1 "type_flag" (Value.unsigned? 8)
    hasSecondaryHeader := ← row.required 2 "has_secondary_header" Value.boolean?
    apid := ← row.required 3 "apid" (Value.unsigned? 16)
    sequenceFlags := ← row.required 4 "sequence_flags" (Value.unsigned? 8)
    sequenceCount := ← row.required 5 "sequence_id" (Value.unsigned? 16)
    lengthField := ← row.required 6 "len_minus1" (Value.unsigned? 16) }

end PrimaryHeader

namespace Packet

/-- The packet as a record. -/
def toValue (packet : Packet) : Value :=
  .fields [
    ("header", packet.header.toValue),
    ("data", .ofBytes packet.data),
    ("offset", .ofNat packet.offset)]

/-- Reads a packet. -/
def ofValue? : Reader Packet := fun value => do
  let row ← Row.open? 3 value
  return {
    header := ← row.required 0 "header" PrimaryHeader.ofValue?
    data := ← row.required 1 "data" Value.bytes?
    offset := ← row.required 2 "offset" (Value.unsigned? 64) }

end Packet

namespace ApidSummary

/-- The counts of an APID as a record. -/
def toValue (summary : ApidSummary) : Value :=
  .fields [
    ("count", .ofNat summary.count),
    ("bytes", .ofNat summary.bytes),
    ("missing", .ofNat summary.missing),
    ("first_time42", .ofOption .ofNat summary.firstTime42),
    ("last_time42", .ofOption .ofNat summary.lastTime42)]

/-- Reads the counts of an APID. -/
def ofValue? : Reader ApidSummary := fun value => do
  let row ← Row.open? 5 value
  return {
    count := ← row.required 0 "count" (Value.unsigned? 64)
    bytes := ← row.required 1 "bytes" (Value.unsigned? 64)
    missing := ← row.required 2 "missing" (Value.unsigned? 64)
    firstTime42 := ← row.nullable 3 "first_time42" (Value.unsigned? 64)
    lastTime42 := ← row.nullable 4 "last_time42" (Value.unsigned? 64) }

end ApidSummary

namespace Summary

/-- The APID that a field is named for: its name is written like a number. -/
def apid? (name : String) : Option Nat := do
  let (digits, rest) ← Record.Json.readWhole name.toList
  let apid := Record.Json.decimalValue digits
  if rest.isEmpty ∧ apid < 0x10000 then some apid else none

/-- The summary as a record. -/
def toValue (summary : Summary) : Value :=
  .fields [
    ("count", .ofNat summary.count),
    ("bytes", .ofNat summary.bytes),
    ("missing", .ofNat summary.missing),
    ("apids", .fields (summary.apids.map fun (apid, entry) => (toString apid, entry.toValue)))]

/-- Reads the counts of all APIDs. -/
def apids? : Reader (List (Nat × ApidSummary))
  | .fields entries => entries.mapM fun (name, entry) =>
    return (← apid? name, ← ApidSummary.ofValue? entry)
  | _ => none

/-- Reads a summary. -/
def ofValue? : Reader Summary := fun value => do
  let row ← Row.open? 4 value
  return {
    count := ← row.required 0 "count" (Value.unsigned? 64)
    bytes := ← row.required 1 "bytes" (Value.unsigned? 64)
    missing := ← row.required 2 "missing" (Value.unsigned? 64)
    apids := ← row.required 3 "apids" apids? }

end Summary

end Downlink
