/-
**Structured values.**

Definitions, headers and statistics are exchanged as structured values: numbers, texts and truth
values, put together in lists and in records with named fields. A whole number and a real number are
different values even if they are equal in size.
-/

namespace Downlink.Record

/-- A structured value. -/
inductive Value
  | null
  | boolean (value : Bool)
  | integer (value : Int)
  | real (value : Float)
  | text (value : String)
  | list (items : List Value)
  | fields (entries : List (String × Value))
  deriving Inhabited

namespace Value

/-- A natural number as a value. -/
def ofNat (number : Nat) : Value :=
  .integer number

/-- An absent value is null. -/
def ofOption {α : Type} (encode : α → Value) : Option α → Value
  | none => .null
  | some value => encode value

/-- A list of values of one kind. -/
def ofList {α : Type} (encode : α → Value) (values : List α) : Value :=
  .list (values.map encode)

/-- The bytes of a buffer as a list of numbers. -/
def ofBytes (bytes : List UInt8) : Value :=
  ofList (fun byte => ofNat byte.toNat) bytes

end Value

end Downlink.Record
