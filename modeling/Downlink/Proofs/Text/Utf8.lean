/-
**Texts read back from UTF-8.**

In UTF-8 a character is written as one to four bytes. The first byte announces how many follow and
carries the highest binary digits of the code point, and each byte that follows carries six more.

* `readFollowing_digit`: a byte that follows is taken in;
* `readChar_encoded`: the bytes of a character are read as this character, whatever comes after;
* `ofUtf8_utf8`: a text is read back from its bytes.
-/

import Downlink.Text.Utf8
import Mathlib.Tactic.IntervalCases

namespace Downlink.Text

/-- The bytes of a text. -/
def utf8 (text : String) : Bytes :=
  text.toUTF8.data.toList

theorem utf8_eq_flatMap (text : String) :
    utf8 text = text.toList.flatMap String.utf8EncodeChar := by
  rw [utf8, String.toUTF8, ← String.utf8Encode_toList, List.utf8Encode]
  simp

/-! ### Bytes that follow -/

/-- A byte that follows, within its bounds, adds six binary digits to the code point. -/
theorem readFollowing_digit {least greatest : UInt8} {digit : Nat} (small : digit < 64)
    (above : least.toNat ≤ digit + 128) (below : digit + 128 ≤ greatest.toNat)
    (following code : Nat) (rest : Bytes) :
    readFollowing (following + 1) least greatest code (UInt8.ofNat (digit + 128) :: rest) =
      ((readFollowing following 0x80 0xbf (code * 64 + digit) rest).1,
        (readFollowing following 0x80 0xbf (code * 64 + digit) rest).2 + 1) := by
  have worth : (UInt8.ofNat (digit + 128)).toNat = digit + 128 :=
    UInt8.toNat_ofNat_of_lt' (show digit + 128 < 256 by omega)
  have fits : least ≤ UInt8.ofNat (digit + 128) ∧ UInt8.ofNat (digit + 128) ≤ greatest := by
    rw [UInt8.le_iff_toNat_le, UInt8.le_iff_toNat_le, worth]
    exact ⟨above, below⟩
  have carried : (digit + 128) % 64 = digit := by omega
  rw [readFollowing, if_pos fits, worth, carried]

/-! ### First bytes -/

theorem Utf8Lead.of?_two {payload : Nat} (least : 2 ≤ payload) (small : payload < 32) :
    Utf8Lead.of? (UInt8.ofNat (payload + 192)) = some ⟨payload, 1, 0x80, 0xbf⟩ := by
  interval_cases payload <;> rfl

theorem Utf8Lead.of?_three {payload : Nat} (small : payload < 16) :
    Utf8Lead.of? (UInt8.ofNat (payload + 224)) =
      some ⟨payload, 2, if payload = 0 then 0xa0 else 0x80,
        if payload = 13 then 0x9f else 0xbf⟩ := by
  interval_cases payload <;> rfl

theorem Utf8Lead.of?_four {payload : Nat} (small : payload < 5) :
    Utf8Lead.of? (UInt8.ofNat (payload + 240)) =
      some ⟨payload, 3, if payload = 0 then 0x90 else 0x80,
        if payload = 4 then 0x8f else 0xbf⟩ := by
  interval_cases payload <;> rfl

/-- A first byte and as many bytes as it announces make up a character. -/
theorem readChar_of_lead {lead : UInt8} {announced : Utf8Lead} {rest : Bytes} {code used : Nat}
    (found : Utf8Lead.of? lead = some announced)
    (read : readFollowing announced.following announced.least announced.greatest
      announced.payload rest = (some code, used)) :
    readChar lead rest = (Char.ofNat code, used) := by
  have several : ¬ lead < 0x80 := by
    intro single
    have low : lead < 0xc2 := UInt8.lt_trans single (by decide)
    rw [Utf8Lead.of?, if_pos low] at found
    cases found
  rw [readChar, if_neg several, found]
  simp only [read]

/-! ### Characters -/

section Code

variable {code : Nat} (rest : Bytes)

theorem readChar_one (most : code ≤ 127) :
    readChar (UInt8.ofNat code) rest = (Char.ofNat code, 0) := by
  have worth : (UInt8.ofNat code).toNat = code :=
    UInt8.toNat_ofNat_of_lt' (show code < 256 by omega)
  have single : UInt8.ofNat code < 0x80 := by
    rw [UInt8.lt_iff_toNat_lt, worth]
    exact Nat.lt_succ_of_le most
  rw [readChar, if_pos single, worth]

theorem readChar_two (least : 128 ≤ code) (most : code ≤ 2047) :
    readChar (UInt8.ofNat (code / 64 % 32 + 192)) (UInt8.ofNat (code % 64 + 128) :: rest) =
      (Char.ofNat code, 1) := by
  refine readChar_of_lead (Utf8Lead.of?_two (by omega) (by omega)) ?_
  have whole : code / 64 % 32 * 64 + code % 64 = code := by omega
  rw [readFollowing_digit (by omega) (Nat.le_add_left 128 _) (show _ ≤ 191 by omega), whole]
  rfl

theorem readChar_three (least : 2048 ≤ code) (most : code ≤ 65535)
    (noSurrogate : code < 55296 ∨ 57343 < code) :
    readChar (UInt8.ofNat (code / 4096 % 16 + 224))
        (UInt8.ofNat (code / 64 % 64 + 128) :: UInt8.ofNat (code % 64 + 128) :: rest) =
      (Char.ofNat code, 2) := by
  refine readChar_of_lead (Utf8Lead.of?_three (by omega)) ?_
  have above : (if code / 4096 % 16 = 0 then (0xa0 : UInt8) else 0x80).toNat ≤
      code / 64 % 64 + 128 := by
    split
    · show 160 ≤ _
      omega
    · exact Nat.le_add_left 128 _
  have below : code / 64 % 64 + 128 ≤
      (if code / 4096 % 16 = 13 then (0x9f : UInt8) else 0xbf).toNat := by
    split
    · show _ ≤ 159
      omega
    · show _ ≤ 191
      omega
  have whole : (code / 4096 % 16 * 64 + code / 64 % 64) * 64 + code % 64 = code := by omega
  rw [readFollowing_digit (by omega) above below,
    readFollowing_digit (by omega) (Nat.le_add_left 128 _) (show _ ≤ 191 by omega), whole]
  rfl

theorem readChar_four (least : 65536 ≤ code) (most : code < 1114112) :
    readChar (UInt8.ofNat (code / 262144 % 8 + 240))
        (UInt8.ofNat (code / 4096 % 64 + 128) :: UInt8.ofNat (code / 64 % 64 + 128) ::
          UInt8.ofNat (code % 64 + 128) :: rest) =
      (Char.ofNat code, 3) := by
  refine readChar_of_lead (Utf8Lead.of?_four (by omega)) ?_
  have above : (if code / 262144 % 8 = 0 then (0x90 : UInt8) else 0x80).toNat ≤
      code / 4096 % 64 + 128 := by
    split
    · show 144 ≤ _
      omega
    · exact Nat.le_add_left 128 _
  have below : code / 4096 % 64 + 128 ≤
      (if code / 262144 % 8 = 4 then (0x8f : UInt8) else 0xbf).toNat := by
    split
    · show _ ≤ 143
      omega
    · show _ ≤ 191
      omega
  have whole : ((code / 262144 % 8 * 64 + code / 4096 % 64) * 64 + code / 64 % 64) * 64 +
      code % 64 = code := by omega
  rw [readFollowing_digit (by omega) above below,
    readFollowing_digit (by omega) (Nat.le_add_left 128 _) (show _ ≤ 191 by omega),
    readFollowing_digit (by omega) (Nat.le_add_left 128 _) (show _ ≤ 191 by omega), whole]
  rfl

end Code

/-- The bytes of a character are read as this character, whatever comes after them. -/
theorem readChar_encoded (char : Char) (rest : Bytes) :
    ∃ lead following, String.utf8EncodeChar char = lead :: following ∧
      readChar lead (following ++ rest) = (char, following.length) := by
  have valid : char.val.toNat < 55296 ∨ 57343 < char.val.toNat ∧ char.val.toNat < 1114112 :=
    char.valid
  have back : Char.ofNat char.val.toNat = char := Char.ofNat_toNat char
  unfold String.utf8EncodeChar
  generalize char.val.toNat = code at valid back
  subst back
  dsimp only
  split
  case isTrue one => exact ⟨_, _, rfl, readChar_one rest one⟩
  case isFalse more =>
    split
    case isTrue two => exact ⟨_, _, rfl, readChar_two rest (by omega) two⟩
    case isFalse more =>
      split
      case isTrue three => exact ⟨_, _, rfl, readChar_three rest (by omega) three (by omega)⟩
      case isFalse more => exact ⟨_, _, rfl, readChar_four rest (by omega) (by omega)⟩

/-! ### Texts -/

theorem readChars_encoded (chars : List Char) :
    readChars (chars.flatMap String.utf8EncodeChar) = chars := by
  induction chars with
  | nil => rw [List.flatMap_nil, readChars]
  | cons char chars ih =>
    obtain ⟨lead, following, written, read⟩ :=
      readChar_encoded char (chars.flatMap String.utf8EncodeChar)
    rw [List.flatMap_cons, written, List.cons_append, readChars, read, List.drop_left, ih]

/-- **A text is read back from its bytes.** -/
theorem ofUtf8_utf8 (text : String) : ofUtf8 (utf8 text) = text := by
  rw [ofUtf8, utf8_eq_flatMap, readChars_encoded, String.ofList_toList]

end Downlink.Text
