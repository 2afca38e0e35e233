/-
**Plain decimals.**

A floating-point value is written with the digits of its shortest decimal and no exponent, however
large or small it is. A whole number has no decimal point; zero keeps its sign; the other values are
`NaN`, `inf` and `-inf`.
-/

import Downlink.Decimal.Shortest

namespace Downlink.Decimal

/-- The number written out in full. -/
def Number.plain (number : Number) : List Char :=
  let digits := Nat.toDigits 10 number.digits
  if 0 ≤ number.scale then digits ++ List.replicate number.scale.toNat '0'
  else
    let places := (-number.scale).toNat
    if places < digits.length then
      digits.take (digits.length - places) ++ '.' :: digits.drop (digits.length - places)
    else '0' :: '.' :: List.replicate (places - digits.length) '0' ++ digits

/-- A sign in front of what follows. -/
def signed (negative : Bool) (text : List Char) : List Char :=
  if negative then '-' :: text else text

/-- The text of an encoded value. -/
def BinaryFormat.plain (format : BinaryFormat) (encoding : Nat) : String :=
  String.ofList <| match format.classify encoding with
    | .nan => "NaN".toList
    | .infinite negative => signed negative "inf".toList
    | .zero negative => signed negative ['0']
    | .finite negative magnitude => signed negative magnitude.shortest.plain

end Downlink.Decimal
