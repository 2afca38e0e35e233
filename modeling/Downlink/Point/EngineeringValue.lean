/-
**Engineering values.**

A conversion turns the raw value of a point into a value that people work with: a number, a word of
an enumeration, a text, or the raw value itself, which may be marked as part of an image or a
spectrum.

* `EngineeringValue.kind` tells these apart;
* `EngineeringValue.display` is the text of a value.
-/

import Downlink.Point.RawValue

namespace Downlink

/-- The kinds of engineering values. -/
inductive ValueKind
  | none
  | number
  | enumeration
  | text
  | image
  | spectrum
  | raw
  deriving DecidableEq, Repr

/-- What a conversion gives. -/
inductive EngineeringValue
  | number (value : Float)
  | enumeration (word : String)
  | text (content : String)
  | image (raw : RawValue)
  | spectrum (raw : RawValue)
  | raw (raw : RawValue)

namespace EngineeringValue

/-- The kind of a value. -/
def kind : EngineeringValue → ValueKind
  | number _ => .number
  | enumeration _ => .enumeration
  | text _ => .text
  | image _ => .image
  | spectrum _ => .spectrum
  | raw _ => .raw

/-- The text of a value. -/
def display : EngineeringValue → String
  | number value => Decimal.double.plain value.toBits.toNat
  | enumeration word => word
  | text content => content
  | image held | spectrum held | raw held => held.display

end EngineeringValue

end Downlink
