/-
**The shortest decimal of a binary number.**

A finite binary floating-point number stands for every real number that rounds to it: those no
further away than half the distance to its neighbours, the ends included when its significand is
even. Its shortest decimal is the one with the fewest digits among them, and of several with that
many digits the nearest to the number, the larger of two equally near.

* `BinaryFormat.classify` takes an encoding apart;
* `shortest` finds the digits in exact arithmetic on natural numbers.
-/

namespace Downlink.Decimal

/-- A binary interchange format: the widths of its fraction and of its exponent. -/
structure BinaryFormat where
  fractionBits : Nat
  exponentBits : Nat

/-- 32-bit numbers. -/
def single : BinaryFormat := ⟨23, 8⟩

/-- 64-bit numbers. -/
def double : BinaryFormat := ⟨52, 11⟩

/-- A positive number `significand * 2 ^ exponent`. It is `lowest` of its power of two when the
number below it is only half as far away as the number above it. -/
structure Magnitude where
  significand : Nat
  exponent : Int
  lowest : Bool

/-- What an encoding stands for. -/
inductive Class
  | nan
  | infinite (negative : Bool)
  | zero (negative : Bool)
  | finite (negative : Bool) (magnitude : Magnitude)

/-- The meaning of an encoding. -/
def BinaryFormat.classify (format : BinaryFormat) (encoding : Nat) : Class :=
  let fraction := encoding % (1 <<< format.fractionBits)
  let biased := encoding / (1 <<< format.fractionBits) % (1 <<< format.exponentBits)
  let negative := encoding / (1 <<< (format.fractionBits + format.exponentBits)) % 2 == 1
  let least : Int := 2 - (1 <<< (format.exponentBits - 1) : Nat) - format.fractionBits
  if biased = (1 <<< format.exponentBits) - 1 then
    if fraction = 0 then .infinite negative else .nan
  else if biased = 0 then
    if fraction = 0 then .zero negative else .finite negative ⟨fraction, least, false⟩
  else
    .finite negative ⟨(1 <<< format.fractionBits) + fraction, least + biased - 1,
      fraction == 0 && biased != 1⟩

/-- The number `digits * 10 ^ scale`. -/
structure Number where
  digits : Nat
  scale : Int

/-- The reals that round to a number, as the fractions `low / den` to `high / den` around
`value / den`. -/
structure Interval where
  low : Nat
  value : Nat
  high : Nat
  den : Nat
  /-- Whether the two ends belong to it. -/
  closed : Bool

/-- The reals that round to a positive number. -/
def Magnitude.interval (magnitude : Magnitude) : Interval :=
  let unit := 1 <<< magnitude.exponent.toNat
  let value := 4 * magnitude.significand
  ⟨(value - if magnitude.lowest then 1 else 2) * unit, value * unit, (value + 2) * unit,
    4 * (1 <<< (-magnitude.exponent).toNat), magnitude.significand % 2 == 0⟩

/-- The same reals measured in units of `10 ^ scale`. -/
def Interval.measuredIn (interval : Interval) (scale : Int) : Interval :=
  let down := Nat.pow 10 scale.toNat
  let up := Nat.pow 10 (-scale).toNat
  ⟨interval.low * up, interval.value * up, interval.high * up, interval.den * down, interval.closed⟩

/-- Whether a whole number of units rounds to the number. -/
def Interval.holds (interval : Interval) (units : Nat) : Bool :=
  if interval.closed then
    interval.low ≤ units * interval.den && units * interval.den ≤ interval.high
  else
    interval.low < units * interval.den && units * interval.den < interval.high

/-- The whole number of units that rounds to the number, the nearer of the two neighbours of the
number if both do, and the greater of two equally near. -/
def Interval.nearest? (interval : Interval) : Option Nat :=
  let below := interval.value / interval.den
  let excess := interval.value % interval.den
  match interval.holds below, interval.holds (below + 1) with
  | true, true => some (if 2 * excess < interval.den then below else below + 1)
  | true, false => some below
  | false, true => some (below + 1)
  | false, false => none

/-- The least `places` with `value / den < 10 ^ places`. -/
def Interval.places (interval : Interval) : Int :=
  let whole := interval.value / interval.den
  if whole = 0 then
    -(((List.range 400).find? fun zeros =>
      interval.den ≤ interval.value * Nat.pow 10 (zeros + 1)).getD 400 : Nat)
  else (Nat.toDigits 10 whole).length

/-- The decimal with the fewest digits that rounds to the number, tried from one digit to
seventeen, which are always enough. A power of ten above the number has one digit only. -/
def Magnitude.shortest (magnitude : Magnitude) : Number :=
  let interval := magnitude.interval
  let places := interval.places
  let attempt (count : Nat) : Option Number :=
    let scale := places - count
    (interval.measuredIn scale).nearest?.map fun digits =>
      if digits = Nat.pow 10 count then ⟨1, places⟩ else ⟨digits, scale⟩
  ((List.range 17).findSome? fun index => attempt (index + 1)).getD ⟨0, 0⟩

end Downlink.Decimal
