/-
**Reading JSON.**

`Value.ofJson?` reads a structured value from its JSON text and answers nothing when the text is not
JSON. Of several fields with one name in a record the last counts.
-/

import Downlink.Record.Json.Number

namespace Downlink.Record

namespace Json

/-- The value of a hexadecimal digit. -/
def hexDigit? (char : Char) : Option Nat :=
  if '0' ≤ char ∧ char ≤ '9' then some (char.toNat - '0'.toNat)
  else if 'a' ≤ char ∧ char ≤ 'f' then some (char.toNat - 'a'.toNat + 10)
  else if 'A' ≤ char ∧ char ≤ 'F' then some (char.toNat - 'A'.toNat + 10)
  else none

/-- The number that four hexadecimal digits spell. -/
def codeUnit? (first second third fourth : Char) : Option Nat := do
  return (((← hexDigit? first) * 16 + (← hexDigit? second)) * 16 + (← hexDigit? third)) * 16 +
    (← hexDigit? fourth)

/-- The character that a backslash and a letter stand for. -/
def escaped? : Char → Option Char
  | '"' => some '"'
  | '\\' => some '\\'
  | '/' => some '/'
  | 'b' => some '\x08'
  | 'f' => some '\x0c'
  | 'n' => some '\n'
  | 'r' => some '\r'
  | 't' => some '\t'
  | _ => none

/-- The character of a pair of surrogates. -/
def ofSurrogates? (high low : Nat) : Option Char :=
  if 0xd800 ≤ high ∧ high < 0xdc00 ∧ 0xdc00 ≤ low ∧ low < 0xe000 then
    some (Char.ofNat (0x10000 + (high - 0xd800) * 0x400 + (low - 0xdc00)))
  else none

/-- Takes the rest of a text in quotes, given what has been read of it, last character first. -/
def readText (read : List Char) : List Char → Option (String × List Char)
  | [] => none
  | '"' :: rest => some (String.ofList read.reverse, rest)
  | '\\' :: 'u' :: a :: b :: c :: d :: rest =>
    match codeUnit? a b c d with
    | none => none
    | some unit =>
      if 0xd800 ≤ unit ∧ unit < 0xe000 then
        match rest with
        | '\\' :: 'u' :: a :: b :: c :: d :: rest =>
          match (codeUnit? a b c d).bind (ofSurrogates? unit) with
          | none => none
          | some char => readText (char :: read) rest
        | _ => none
      else readText (Char.ofNat unit :: read) rest
  | '\\' :: letter :: rest =>
    match escaped? letter with
    | none => none
    | some char => readText (char :: read) rest
  | char :: rest => if char.toNat < 0x20 then none else readText (char :: read) rest

/-- Takes a word off the front of a text. -/
def readWord (word : String) (meaning : Value) (text : List Char) : Option (Value × List Char) :=
  if word.toList.isPrefixOf text then some (meaning, text.drop word.length) else none

/-- What follows blanks. -/
def skipBlanks (text : List Char) : List Char :=
  text.dropWhile fun char => char = ' ' || char = '\t' || char = '\n' || char = '\r'

/-- Puts a field behind the others, in place of one of the same name. -/
def addField (name : String) (value : Value) (read : List (String × Value)) :
    List (String × Value) :=
  (name, value) :: read.filter (·.1 != name)

mutual

/-- Takes a value off the front of a text, nested no deeper than the fuel allows. -/
def readValue : Nat → List Char → Option (Value × List Char)
  | 0, _ => none
  | fuel + 1, text =>
    match skipBlanks text with
    | '[' :: rest =>
      match skipBlanks rest with
      | ']' :: rest => some (.list [], rest)
      | rest => readItems fuel [] rest
    | '{' :: rest =>
      match skipBlanks rest with
      | '}' :: rest => some (.fields [], rest)
      | rest => readFields fuel [] rest
    | '"' :: rest => (readText [] rest).map fun (text, rest) => (.text text, rest)
    | 't' :: rest => readWord "true" (.boolean true) ('t' :: rest)
    | 'f' :: rest => readWord "false" (.boolean false) ('f' :: rest)
    | 'n' :: rest => readWord "null" .null ('n' :: rest)
    | rest => readNumber rest

/-- Takes the rest of a list, given the items read so far, the last one first. -/
def readItems : Nat → List Value → List Char → Option (Value × List Char)
  | 0, _, _ => none
  | fuel + 1, read, text =>
    match readValue fuel text with
    | none => none
    | some (item, rest) =>
      match skipBlanks rest with
      | ',' :: rest => readItems fuel (item :: read) rest
      | ']' :: rest => some (.list (item :: read).reverse, rest)
      | _ => none

/-- Takes the rest of a record, given the fields read so far, the last one first. -/
def readFields : Nat → List (String × Value) → List Char → Option (Value × List Char)
  | 0, _, _ => none
  | fuel + 1, read, text =>
    match skipBlanks text with
    | '"' :: rest =>
      match readText [] rest with
      | none => none
      | some (name, rest) =>
        match skipBlanks rest with
        | ':' :: rest =>
          match readValue fuel rest with
          | none => none
          | some (value, rest) =>
            match skipBlanks rest with
            | ',' :: rest => readFields fuel (addField name value read) rest
            | '}' :: rest => some (.fields (addField name value read).reverse, rest)
            | _ => none
        | _ => none
    | _ => none

end

end Json

/-- The value that a JSON text stands for. Every value takes a character at least, and so does what
holds it together with others, so the length of the text is fuel enough. -/
def Value.ofJson? (json : String) : Option Value :=
  let text := json.toList
  match Json.readValue (2 * text.length + 2) text with
  | some (value, rest) => if (Json.skipBlanks rest).isEmpty then some value else none
  | none => none

end Downlink.Record
