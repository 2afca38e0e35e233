/-
**Writing JSON.**

`Value.toJson` writes a structured value on one line without blanks. A real number is written in
full and always with a point, so that it is read as a real number again; one that is not finite is
written as null.
-/

import Downlink.Decimal.Plain
import Downlink.Record.Value

namespace Downlink.Record

namespace Json

/-- A character as it stands in quotes: the quote and the backslash take a backslash, and a control
character is named by four hexadecimal digits. -/
def escape (char : Char) : List Char :=
  if char = '"' ∨ char = '\\' then ['\\', char]
  else if char.toNat < 0x20 then
    let digits := Nat.toDigits 16 char.toNat
    ['\\', 'u'] ++ List.replicate (4 - digits.length) '0' ++ digits
  else [char]

/-- Writes a text in quotes after what has been written. -/
def writeText (written text : String) : String :=
  (text.foldl (fun written char => (escape char).foldl String.push written)
    (written.push '"')).push '"'

/-- The text of a real number. -/
def realText (value : Float) : String :=
  let text := Decimal.double.plain value.toBits.toNat
  if !value.isFinite then "null" else if text.contains '.' then text else text ++ ".0"

mutual

/-- Writes a value after what has been written. -/
def writeValue (written : String) : Value → String
  | .null => written ++ "null"
  | .boolean value => written ++ if value then "true" else "false"
  | .integer value => written ++ toString value
  | .real value => written ++ realText value
  | .text text => writeText written text
  | .list [] => written ++ "[]"
  | .list (item :: items) => (writeItems (writeValue (written.push '[') item) items).push ']'
  | .fields [] => written ++ "\x7b\x7d"
  | .fields ((name, value) :: entries) =>
    let first := writeValue ((writeText (written.push '\x7b') name).push ':') value
    (writeFields first entries).push '\x7d'

/-- Writes the items after the first one of a list. -/
def writeItems (written : String) : List Value → String
  | [] => written
  | item :: items => writeItems (writeValue (written.push ',') item) items

/-- Writes the fields after the first one of a record. -/
def writeFields (written : String) : List (String × Value) → String
  | [] => written
  | (name, value) :: entries =>
    writeFields (writeValue ((writeText (written.push ',') name).push ':') value) entries

end

end Json

/-- The JSON text of a value. -/
def Value.toJson (value : Value) : String :=
  Json.writeValue "" value

end Downlink.Record
