/-
**Reading UTF-8 that may be damaged.**

Well-formed sequences become their characters. Where the bytes stop being well formed, the longest
run that could still have begun a character is replaced by one U+FFFD, and reading goes on after it.
-/

import Downlink.Bytes

namespace Downlink.Text

/-- What the first byte of a sequence of several bytes announces. -/
structure Utf8Lead where
  /-- The bits of the code point that the first byte carries. -/
  payload : Nat
  /-- How many bytes follow. -/
  following : Nat
  /-- The least second byte that gives neither an overlong form nor a surrogate. -/
  least : UInt8
  /-- The greatest second byte that stays inside Unicode. -/
  greatest : UInt8

/-- The reading of a first byte, if a sequence of several bytes can begin with it. -/
def Utf8Lead.of? (byte : UInt8) : Option Utf8Lead :=
  if byte < 0xc2 then none
  else if byte < 0xe0 then some ⟨byte.toNat - 0xc0, 1, 0x80, 0xbf⟩
  else if byte < 0xf0 then
    some ⟨byte.toNat - 0xe0, 2, if byte = 0xe0 then 0xa0 else 0x80,
      if byte = 0xed then 0x9f else 0xbf⟩
  else if byte < 0xf5 then
    some ⟨byte.toNat - 0xf0, 3, if byte = 0xf0 then 0x90 else 0x80,
      if byte = 0xf4 then 0x8f else 0xbf⟩
  else none

/-- Reads `following` more bytes into a code point, the next of them within the bounds. Gives the
code point, unless a byte is missing or unfit, and the number of bytes that were fit. -/
def readFollowing : Nat → UInt8 → UInt8 → Nat → Bytes → Option Nat × Nat
  | 0, _, _, code, _ => (some code, 0)
  | _ + 1, _, _, _, [] => (none, 0)
  | following + 1, least, greatest, code, byte :: rest =>
    if least ≤ byte ∧ byte ≤ greatest then
      let (result, used) := readFollowing following 0x80 0xbf (code * 64 + byte.toNat % 64) rest
      (result, used + 1)
    else (none, 0)

/-- The character that begins with `lead`, and how many bytes after `lead` belong to it. -/
def readChar (lead : UInt8) (rest : Bytes) : Char × Nat :=
  if lead < 0x80 then (Char.ofNat lead.toNat, 0)
  else match Utf8Lead.of? lead with
    | none => ('\ufffd', 0)
    | some ⟨payload, following, least, greatest⟩ =>
      match readFollowing following least greatest payload rest with
      | (some code, used) => (Char.ofNat code, used)
      | (none, used) => ('\ufffd', used)

/-- The characters of a buffer, damaged runs replaced. -/
def readChars : Bytes → List Char
  | [] => []
  | lead :: rest => (readChar lead rest).1 :: readChars (rest.drop (readChar lead rest).2)
termination_by bytes => bytes.length
decreasing_by simp only [List.length_cons, List.length_drop]; omega

/-- The text of a buffer, damaged runs replaced. -/
def ofUtf8 (bytes : Bytes) : String :=
  String.ofList (readChars bytes)

end Downlink.Text
