/-
**Sets of code points.**

A character property is given as a list of inclusive ranges of code points; `CodeRanges.contains`
decides it for a character.
-/

namespace Downlink.Text

/-- Inclusive ranges of code points, in ascending order. -/
abbrev CodeRanges := List (Nat × Nat)

/-- Whether one of the ranges holds the character. -/
def CodeRanges.contains (ranges : CodeRanges) (char : Char) : Bool :=
  ranges.any fun (first, last) => first ≤ char.toNat && char.toNat ≤ last

end Downlink.Text
