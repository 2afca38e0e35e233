/-
**Numbers in JSON.**

A number without a point and an exponent that 64 bits can hold, signed or unsigned, is a whole
number; only `-0` is not, as it has a sign to keep. Every other number is real: the floating-point
number nearest to what the digits spell. One that is too large is no number at all.

* `readNumber` takes a number off the front of a text.
-/

import Downlink.Record.Value

namespace Downlink.Record.Json

/-- The number that decimal digits spell. -/
def decimalValue (digits : List Char) : Nat :=
  digits.foldl (fun number digit => 10 * number + (digit.toNat - '0'.toNat)) 0

/-- The floating-point number nearest to `0.d₁d₂… * 10 ^ scale`, where `d₁` is not zero; of two
equally near it is the even one. One that would be infinite is none, which is so from `10 ^ 310` on,
and everything below `10 ^ -330` is nearest to zero. -/
def nearest? (digits : List Char) (scale : Int) : Option Float :=
  if scale < -330 then some 0
  else if 310 < scale then none
  else
    let exponent := scale - digits.length
    let number := Float.ofScientific (decimalValue digits) (exponent < 0) exponent.natAbs
    if number.isFinite then some number else none

/-- The parts of a number as they are written. -/
structure Numeral where
  negative : Bool
  whole : List Char
  fraction : Option (List Char)
  exponent : Option Int

namespace Numeral

/-- The whole number, if the numeral is written as one that 64 bits hold. -/
def integer? (numeral : Numeral) : Option Int :=
  match numeral.fraction, numeral.exponent with
  | none, none =>
    let size := decimalValue numeral.whole
    if numeral.negative then if 0 < size ∧ size ≤ 1 <<< 63 then some (-size) else none
    else if size < 1 <<< 64 then some size else none
  | _, _ => none

/-- The real number, if it is not too large. Zeros in front of the first other digit only move the
point. -/
def real? (numeral : Numeral) : Option Float :=
  let fraction := numeral.fraction.getD []
  let size := match (numeral.whole ++ fraction).dropWhile (· == '0') with
    | [] => some 0
    | digits => nearest? digits (numeral.exponent.getD 0 - fraction.length + digits.length)
  size.map fun size => if numeral.negative then -size else size

/-- The value of the number. -/
def value? (numeral : Numeral) : Option Value :=
  match numeral.integer? with
  | some number => some (.integer number)
  | none => numeral.real?.map .real

end Numeral

/-- Takes digits off the front of a text; there has to be one. -/
def readDigits (text : List Char) : Option (List Char × List Char) :=
  match text.span Char.isDigit with
  | ([], _) => none
  | (digits, rest) => some (digits, rest)

/-- Takes the digits before the point; only a zero that stands alone comes first. -/
def readWhole (text : List Char) : Option (List Char × List Char) :=
  match readDigits text with
  | some ('0' :: _ :: _, _) => none
  | whole => whole

/-- Takes a point and the digits after it, if there is a point. -/
def readFraction : List Char → Option (Option (List Char) × List Char)
  | '.' :: text => (readDigits text).map fun (digits, rest) => (some digits, rest)
  | text => some (none, text)

/-- Takes an exponent, if there is one. -/
def readExponent : List Char → Option (Option Int × List Char)
  | [] => some (none, [])
  | mark :: text =>
    if mark = 'e' ∨ mark = 'E' then
      let (negative, text) := match text with
        | '-' :: text => (true, text)
        | '+' :: text => (false, text)
        | text => (false, text)
      (readDigits text).map fun (digits, rest) =>
        let size : Int := decimalValue digits
        (some (if negative then -size else size), rest)
    else some (none, mark :: text)

/-- Takes a number off the front of a text. -/
def readNumber (text : List Char) : Option (Value × List Char) := do
  let (negative, text) := match text with
    | '-' :: text => (true, text)
    | text => (false, text)
  let (whole, text) ← readWhole text
  let (fraction, text) ← readFraction text
  let (exponent, text) ← readExponent text
  return (← Numeral.value? ⟨negative, whole, fraction, exponent⟩, text)

end Downlink.Record.Json
