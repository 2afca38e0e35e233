/-
**Reading structured values.**

A reader takes a value apart and refuses one of the wrong kind or out of range; nothing is converted
on the way, except that a whole number is accepted where a real one is wanted.

A record can be written with named fields or as the bare list of its fields in their fixed order.
`Row.open?` accepts both. A field is then read by its name and its place:

* `required`: the record is refused when the field is missing;
* `withDefault`: a missing field has its default, but a field that is there must be readable;
* `nullable`: null stands for no value, and so does a field that the named form leaves out.

`untag?` takes a tag off a record, which is a field of its own or stands before the others.
-/

import Downlink.Record.Value

namespace Downlink.Record

/-- A way to read values of one kind. -/
abbrev Reader (α : Type) := Value → Option α

namespace Value

/-- Reads a truth value. -/
def boolean? : Reader Bool
  | .boolean value => some value
  | _ => none

/-- Reads a text. -/
def text? : Reader String
  | .text value => some value
  | _ => none

/-- Reads a whole number. -/
def integer? : Reader Int
  | .integer value => some value
  | _ => none

/-- Reads a natural number. -/
def natural? : Reader Nat
  | .integer (.ofNat value) => some value
  | _ => none

/-- Reads a natural number of at most `bits` bits. -/
def unsigned? (bits : Nat) : Reader Nat := fun value => do
  let number ← value.natural?
  if number < 1 <<< bits then some number else none

/-- Reads a whole number that 64 bits hold in two's complement. -/
def int64? : Reader Int64 := fun value => do
  let number ← value.integer?
  if Int64.minValue.toInt ≤ number ∧ number ≤ Int64.maxValue.toInt then some (Int64.ofInt number)
  else none

/-- Reads a real number. -/
def real? : Reader Float
  | .real value => some value
  | .integer value => some (Float.ofInt value)
  | _ => none

/-- Reads a list whose items are all readable. -/
def list? {α : Type} (item : Reader α) : Reader (List α)
  | .list items => items.mapM item
  | _ => none

/-- Reads a list of bytes. -/
def bytes? : Reader (List UInt8) :=
  list? fun value => (value.unsigned? 8).map UInt8.ofNat

/-- Reads one of several words: written as a text, or as a record whose only field has the word for
its name and null for its value. -/
def word? {α : Type} (meaning : String → Option α) : Reader α
  | .text word => meaning word
  | .fields [(word, .null)] => meaning word
  | _ => none

end Value

/-- A record opened for reading. -/
inductive Row
  | named (entries : List (String × Value))
  | positional (items : List Value)

namespace Row

/-- Opens a record of at most `width` fields; in the named form, fields of other names are ignored.
-/
def open? (width : Nat) : Reader Row
  | .fields entries => some (.named entries)
  | .list items => if items.length ≤ width then some (.positional items) else none
  | _ => none

/-- The value of a field. -/
def find? (row : Row) (place : Nat) (name : String) : Option Value :=
  match row with
  | .named entries => entries.lookup name
  | .positional items => items[place]?

/-- Reads a field that has to be there. -/
def required {α : Type} (row : Row) (place : Nat) (name : String) (read : Reader α) : Option α := do
  read (← row.find? place name)

/-- Reads a field that may be missing. -/
def withDefault {α : Type} (row : Row) (place : Nat) (name : String) (missing : α)
    (read : Reader α) : Option α :=
  match row.find? place name with
  | none => some missing
  | some value => read value

/-- Reads a field that may hold no value. -/
def nullable {α : Type} (row : Row) (place : Nat) (name : String) (read : Reader α) :
    Option (Option α) :=
  match row.find? place name, row with
  | some .null, _ => some none
  | some value, _ => (read value).map some
  | none, .named _ => some none
  | none, .positional _ => none

end Row

/-- The tag of a record and the record without it; in the named form the tag has the name `type`. -/
def untag? : Value → Option (String × Value)
  | .fields entries => do
    let tag ← (← entries.lookup "type").text?
    return (tag, .fields (entries.filter (·.1 != "type")))
  | .list (.text tag :: items) => some (tag, .list items)
  | _ => none

end Downlink.Record
