/-
**The primary header of a space packet.**

`PrimaryHeader.decode?` takes the six bytes apart; it answers nothing exactly when there are fewer.
The version, type, flag and APID make up the first two bytes again (`PrimaryHeader.streamId`), and
the length field tells the length of the whole packet (`PrimaryHeader.totalLength`).
-/

import Downlink.Packet.Field

namespace Downlink

/-- The fields of a primary header. -/
structure PrimaryHeader where
  version : Nat
  typeFlag : Nat
  hasSecondaryHeader : Bool
  apid : Nat
  /-- How the packet belongs to a group: 1 first, 0 continuation, 2 last, 3 not part of a group. -/
  sequenceFlags : Nat
  sequenceCount : Nat
  /-- The number of bytes after the header, less one. -/
  lengthField : Nat
  deriving DecidableEq, Repr

namespace PrimaryHeader

/-- The header at the start of a buffer. -/
def decode? (bytes : Bytes) : Option PrimaryHeader := do
  let identification ← Word.u12.read? bytes 0
  let sequence ← Word.u12.read? bytes 2
  let lengthField ← Word.u12.read? bytes 4
  return {
    version := identification / 0x2000
    typeFlag := identification / 0x1000 % 2
    hasSecondaryHeader := identification / 0x800 % 2 == 1
    apid := identification % 0x800
    sequenceFlags := sequence / 0x4000
    sequenceCount := sequence % 0x4000
    lengthField }

/-- The first two bytes of the header as one number. -/
def streamId (header : PrimaryHeader) : Nat :=
  header.version * 0x2000 + header.typeFlag * 0x1000 +
    header.hasSecondaryHeader.toNat * 0x800 + header.apid

/-- The length of the whole packet. -/
def totalLength (header : PrimaryHeader) : Nat :=
  header.lengthField + PacketField.headerLength + 1

/-- The text of a header. -/
def display (header : PrimaryHeader) : String :=
  "PrimaryHeader \x7b version: " ++ toString header.version ++
    ", type_flag: " ++ toString header.typeFlag ++
    ", has_secondary_header: " ++ (if header.hasSecondaryHeader then "true" else "false") ++
    ", apid: " ++ toString header.apid ++
    ", sequence_flags: " ++ toString header.sequenceFlags ++
    ", sequence_id: " ++ toString header.sequenceCount ++
    ", len_minus1: " ++ toString header.lengthField ++ " \x7d"

end PrimaryHeader

end Downlink
