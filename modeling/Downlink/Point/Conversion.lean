/-
**Conversions.**

A conversion turns raw values into engineering values. Some are described by the mission dictionary:
a polynomial, or a list, map or list of ranges that gives words for integers. The others are the
same for every mission: the value as it is, the text of a time code, parts of a time code, and the
marks for images and spectra.

* `Conversion.apply` converts a raw value, or tells why there is nothing to convert it to;
* `Conversion.returnedKind`: the kind of value that it gives;
* `Conversion.enumeration`: the words of a list or map with their integers;
* `Conversion.builtins`: those that need no description.

A map is searched through a table, which has the first word of each integer
(`DiscreteMap.get?_eq_find?`).
-/

import Downlink.Dictionary.Table
import Downlink.Error
import Downlink.Point.EngineeringValue
import Downlink.Time.Code

namespace Downlink

/-- A polynomial in the raw value. -/
structure Polynomial where
  name : String
  order : Nat
  /-- The coefficients, that of the constant term first; those beyond the order do not count. -/
  coefficients : List Float

/-- Words for the integers from `lowIndex` on. -/
structure DiscreteList where
  name : String
  values : List String
  lowIndex : Int64 := 0
  deriving DecidableEq, Repr

/-- Words for single integers. The longer of the two lists is cut off. -/
structure DiscreteMap where
  name : String
  indices : List Int64
  values : List String
  deriving DecidableEq, Repr

/-- A word for the integers from `low` to `high`, both included. -/
structure DiscreteRange where
  low : Int64
  high : Int64
  value : String
  deriving DecidableEq, Repr

/-- Words for ranges of integers. -/
structure DiscreteRanges where
  name : String
  ranges : List DiscreteRange
  deriving DecidableEq, Repr

/-- An integer and its word. -/
structure EnumEntry where
  value : Int64
  word : String
  deriving DecidableEq, Repr

/-- How raw values become engineering values. -/
inductive Conversion
  /-- The raw value as it is. -/
  | identity
  | polynomial (definition : Polynomial)
  | discreteList (definition : DiscreteList)
  | discreteMap (definition : DiscreteMap)
  | discreteRanges (definition : DiscreteRanges)
  /-- The text of a Time40 code. -/
  | time40
  /-- The text of a Time42 code. -/
  | time42
  /-- The text of a Time44 code. -/
  | time44
  /-- The whole seconds of a Time42 code. -/
  | time42Seconds
  /-- The ticks of a Time42 code. -/
  | time42Ticks
  /-- Ticks as a fraction of a second. -/
  | ticksToFraction
  /-- The raw value marked as part of an image. -/
  | image (camera : Option String)
  /-- The raw value marked as part of a spectrum. -/
  | spectrum

namespace Polynomial

/-- The highest order that is evaluated; a polynomial of higher order is 0 everywhere. -/
def greatestOrder : Nat := 7

/-- The sum of the coefficients times the powers of a number, from the highest power down. -/
def sum (coefficients : List Float) (number : Float) : Float :=
  coefficients.foldr (fun coefficient higher => higher * number + coefficient) 0

/-- The value of a polynomial; it fails exactly when an order that is evaluated has too few
coefficients. -/
def evaluate (polynomial : Polynomial) (number : Float) : Except ConversionFault Float :=
  if greatestOrder < polynomial.order then .ok 0
  else if polynomial.coefficients.length ≤ polynomial.order then
    .error (.missingCoefficients polynomial.order polynomial.coefficients.length)
  else .ok (sum (polynomial.coefficients.take (polynomial.order + 1)) number)

end Polynomial

namespace DiscreteList

/-- The word for an integer that the list does not reach. -/
def illegal : String := "illegal_conversion"

/-- The word for an integer. -/
def get? (list : DiscreteList) (index : Int64) : Option String :=
  let place := index.toInt - list.lowIndex.toInt
  if 0 ≤ place then list.values[place.toNat]? else none

/-- The words with their integers; where these would grow too large the largest stands for them. -/
def enumeration (list : DiscreteList) : List EnumEntry :=
  list.values.mapIdx fun place word =>
    ⟨Int64.ofInt (min (list.lowIndex.toInt + place) Int64.maxValue.toInt), word⟩

end DiscreteList

namespace DiscreteMap

/-- The integers with their words, by the integer; a second word for an integer does not count. -/
def table (map : DiscreteMap) : Std.HashMap Int64 (Int64 × String) :=
  firstByKey (·.1) (map.indices.zip map.values)

/-- The word for an integer. -/
def get? (map : DiscreteMap) (index : Int64) : Option String :=
  map.table[index]?.map (·.2)

/-- The word for an integer is the first one that is given for it. -/
theorem get?_eq_find? (map : DiscreteMap) (index : Int64) :
    map.get? index = ((map.indices.zip map.values).find? (·.1 == index)).map (·.2) := by
  rw [get?, table, getElem?_firstByKey]

/-- The value for an integer. In a truncated packet that is filled up with zeros a field can be 0
without meaning it, so where there is no word for 0 the value is the number 0. -/
def valueOf (map : DiscreteMap) (index : Int64) : Except ConversionFault EngineeringValue :=
  match map.get? index with
  | some word => .ok (.enumeration word)
  | none => if index = 0 then .ok (.number 0) else .error (.unmapped index.toInt)

/-- The words with their integers. -/
def enumeration (map : DiscreteMap) : List EnumEntry :=
  List.zipWith EnumEntry.mk map.indices map.values

end DiscreteMap

namespace DiscreteRanges

/-- The word for an integer in none of the ranges. -/
def outside : String := "No Conversion"

/-- The word of the first range that has the integer in it. -/
def get? (ranges : DiscreteRanges) (index : Int64) : Option String :=
  (ranges.ranges.find? fun range => range.low ≤ index && index ≤ range.high).map (·.value)

end DiscreteRanges

namespace Conversion

/-- The conversions that every dictionary has. -/
def builtins : List Conversion :=
  [identity, time40, time42, time44, time42Seconds, time42Ticks, ticksToFraction, image none,
    spectrum]

/-- The name by which points refer to the conversion. -/
def name : Conversion → String
  | identity => "Identity"
  | polynomial definition => definition.name
  | discreteList definition => definition.name
  | discreteMap definition => definition.name
  | discreteRanges definition => definition.name
  | time40 => "Time40 Conversion"
  | time42 => "Time42 Conversion"
  | time44 => "Time44 Conversion"
  | time42Seconds => "Time42ToSeconds"
  | time42Ticks => "Time42ToSubseconds"
  | ticksToFraction => "SubsecondsToFraction"
  | image _ => "Image Conversion"
  | spectrum => "Spectrum Conversion"

/-- The kind of value that the conversion gives. -/
def returnedKind : Conversion → ValueKind
  | identity => .raw
  | polynomial _ | time42Seconds | time42Ticks | ticksToFraction => .number
  | discreteList _ | discreteMap _ | discreteRanges _ => .enumeration
  | time40 | time42 | time44 => .text
  | image _ => .image
  | spectrum => .spectrum

/-- The words of a list or a map with their integers. -/
def enumeration : Conversion → Option (List EnumEntry)
  | discreteList definition => some definition.enumeration
  | discreteMap definition => some definition.enumeration
  | _ => none

/-- The engineering value of a raw value. -/
def convert : Conversion → RawValue → Except ConversionFault EngineeringValue
  | identity, raw => .ok (.raw raw)
  | polynomial definition, raw => do
    return .number (← definition.evaluate (← raw.toFloat))
  | discreteList definition, raw => do
    return .enumeration ((definition.get? (← raw.toInt64)).getD DiscreteList.illegal)
  | discreteMap definition, raw => do
    definition.valueOf (← raw.toInt64)
  | discreteRanges definition, raw => do
    return .enumeration ((definition.get? (← raw.toInt64)).getD DiscreteRanges.outside)
  | time40, .uint32 code => .ok (.text (Instant.ofTime40 code.toNat).itos)
  | time42, .uint64 code => .ok (.text (Instant.ofTime42 code.toNat).itos)
  | time44, .uint64 code => .ok (.text (Instant.ofTime44 code.toNat).itos)
  | time40, _ | time42, _ | time44, _ => .error .wrongTimeType
  | time42Seconds, raw => do
    return .number (Float.ofNat (Downlink.time42Seconds (← raw.toInt64).toUInt64.toNat))
  | time42Ticks, raw => do
    return .number (Float.ofNat (Downlink.time42Ticks (← raw.toInt64).toUInt64.toNat))
  | ticksToFraction, raw => do
    return .number (Downlink.ticksToFraction (← raw.toFloat))
  | image _, raw => .ok (.image raw)
  | spectrum, raw => .ok (.spectrum raw)

/-- The engineering value of a raw value; a failure tells which conversion failed. -/
def apply (conversion : Conversion) (raw : RawValue) : Except Error EngineeringValue :=
  (conversion.convert raw).mapError (.conversionFailed conversion.name)

end Conversion

end Downlink
