/-
**Conversions as records.**

The written form of conversions, of the kinds of values that they give and of the words of an
enumeration. A conversion carries a tag that says of what kind it is.
-/

import Downlink.Point.Conversion
import Downlink.Record.Reader

namespace Downlink

open Record (Reader Row Value)

namespace ValueKind

/-- All kinds. -/
def all : List ValueKind :=
  [none, number, enumeration, text, image, spectrum, raw]

/-- The word for a kind. -/
def word : ValueKind → String
  | none => "none"
  | number => "number"
  | enumeration => "enum"
  | text => "string"
  | image => "image"
  | spectrum => "spectrum"
  | raw => "raw"

/-- The kind as a record. -/
def toValue (kind : ValueKind) : Value :=
  .text kind.word

/-- Reads a kind. -/
def ofValue? : Reader ValueKind :=
  Value.word? fun word => all.find? (·.word == word)

end ValueKind

namespace EnumEntry

/-- The entry as a record. -/
def toValue (entry : EnumEntry) : Value :=
  .fields [("value", .integer entry.value.toInt), ("string", .text entry.word)]

/-- Reads an entry. -/
def ofValue? : Reader EnumEntry := fun value => do
  let row ← Row.open? 2 value
  return {
    value := ← row.required 0 "value" Value.int64?
    word := ← row.required 1 "string" Value.text? }

end EnumEntry

namespace Polynomial

/-- The fields of a polynomial. -/
def toFields (polynomial : Polynomial) : List (String × Value) :=
  [("name", .text polynomial.name), ("order", .ofNat polynomial.order),
    ("coefficients", .ofList .real polynomial.coefficients)]

/-- Reads a polynomial. -/
def ofValue? : Reader Polynomial := fun value => do
  let row ← Row.open? 3 value
  return {
    name := ← row.required 0 "name" Value.text?
    order := ← row.required 1 "order" (Value.unsigned? 64)
    coefficients := ← row.required 2 "coefficients" (Value.list? Value.real?) }

end Polynomial

namespace DiscreteList

/-- The fields of a list. -/
def toFields (list : DiscreteList) : List (String × Value) :=
  [("name", .text list.name), ("values", .ofList .text list.values),
    ("low_index", .integer list.lowIndex.toInt)]

/-- Reads a list. -/
def ofValue? : Reader DiscreteList := fun value => do
  let row ← Row.open? 3 value
  return {
    name := ← row.required 0 "name" Value.text?
    values := ← row.required 1 "values" (Value.list? Value.text?)
    lowIndex := ← row.withDefault 2 "low_index" 0 Value.int64? }

end DiscreteList

namespace DiscreteMap

/-- The fields of a map. -/
def toFields (map : DiscreteMap) : List (String × Value) :=
  [("name", .text map.name), ("indices", .ofList (fun index => .integer index.toInt) map.indices),
    ("values", .ofList .text map.values)]

/-- Reads a map. -/
def ofValue? : Reader DiscreteMap := fun value => do
  let row ← Row.open? 3 value
  return {
    name := ← row.required 0 "name" Value.text?
    indices := ← row.required 1 "indices" (Value.list? Value.int64?)
    values := ← row.required 2 "values" (Value.list? Value.text?) }

end DiscreteMap

namespace DiscreteRange

/-- The range as a record. -/
def toValue (range : DiscreteRange) : Value :=
  .fields [("low", .integer range.low.toInt), ("high", .integer range.high.toInt),
    ("value", .text range.value)]

/-- Reads a range. -/
def ofValue? : Reader DiscreteRange := fun value => do
  let row ← Row.open? 3 value
  return {
    low := ← row.required 0 "low" Value.int64?
    high := ← row.required 1 "high" Value.int64?
    value := ← row.required 2 "value" Value.text? }

end DiscreteRange

namespace DiscreteRanges

/-- The fields of a list of ranges. -/
def toFields (ranges : DiscreteRanges) : List (String × Value) :=
  [("name", .text ranges.name), ("ranges", .ofList DiscreteRange.toValue ranges.ranges)]

/-- Reads a list of ranges. -/
def ofValue? : Reader DiscreteRanges := fun value => do
  let row ← Row.open? 2 value
  return {
    name := ← row.required 0 "name" Value.text?
    ranges := ← row.required 1 "ranges" (Value.list? DiscreteRange.ofValue?) }

end DiscreteRanges

namespace Conversion

/-- The tag of a conversion. -/
def tag : Conversion → String
  | identity => "identity"
  | polynomial _ => "polynomial"
  | discreteList _ => "discrete_list"
  | discreteMap _ => "discrete_map"
  | discreteRanges _ => "discrete_range"
  | time40 => "time40"
  | time42 => "time42"
  | time44 => "time44"
  | time42Seconds => "time42_to_seconds"
  | time42Ticks => "time42_to_subseconds"
  | ticksToFraction => "subseconds_to_fraction"
  | image _ => "image"
  | spectrum => "spectrum"

/-- The fields of a conversion besides its tag. -/
def toFields : Conversion → List (String × Value)
  | polynomial definition => definition.toFields
  | discreteList definition => definition.toFields
  | discreteMap definition => definition.toFields
  | discreteRanges definition => definition.toFields
  | image camera => [("camera", .ofOption .text camera)]
  | _ => []

/-- The conversion as a record. -/
def toValue (conversion : Conversion) : Value :=
  .fields (("type", .text conversion.tag) :: conversion.toFields)

/-- Reads an image conversion, of which the camera may be missing or null. -/
def image? : Reader Conversion := fun value => do
  let row ← Row.open? 1 value
  let camera ← row.withDefault 0 "camera" .null some
  match camera with
  | .null => return image none
  | camera => return image (some (← camera.text?))

/-- Reads a conversion. -/
def ofValue? : Reader Conversion := fun value => do
  let (tag, rest) ← Record.untag? value
  match tag with
  | "polynomial" => return polynomial (← Polynomial.ofValue? rest)
  | "discrete_list" => return discreteList (← DiscreteList.ofValue? rest)
  | "discrete_map" => return discreteMap (← DiscreteMap.ofValue? rest)
  | "discrete_range" => return discreteRanges (← DiscreteRanges.ofValue? rest)
  | "image" => image? rest
  | tag =>
    let _ ← Row.open? 0 rest
    builtins.find? (·.tag == tag)

end Conversion

end Downlink
