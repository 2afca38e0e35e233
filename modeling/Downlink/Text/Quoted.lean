/-
**Quoted text.**

A text is shown between double quotes with nothing invisible inside: the quote and the backslash
take a backslash, tab, line feed, carriage return and NUL have escapes of one letter, and every
other character without a visible form of its own is named by its code point in hexadecimal.
-/

import Downlink.Text.Visible

namespace Downlink.Text

/-- The escape that names a character by its code point. -/
def codePointEscape (char : Char) : List Char :=
  "\\u\x7b".toList ++ Nat.toDigits 16 char.toNat ++ "\x7d".toList

/-- A character as it stands between the quotes. -/
def quotedChar (char : Char) : List Char :=
  if char = '\x00' then ['\\', '0']
  else if char = '\t' then ['\\', 't']
  else if char = '\n' then ['\\', 'n']
  else if char = '\r' then ['\\', 'r']
  else if char = '"' || char = '\\' then ['\\', char]
  else if extendsGrapheme char || !isVisible char then codePointEscape char
  else [char]

/-- The text between double quotes, with escapes. -/
def quoted (text : String) : String :=
  String.ofList ('"' :: text.toList.flatMap quotedChar ++ ['"'])

end Downlink.Text
