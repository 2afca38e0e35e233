/-
**Ignoring letter case.**

Two rules compare names without regard to case:

* `lowercase` replaces every cased letter by its lower-case form, in the whole of Unicode; a capital
  sigma becomes the final form when it ends a word, that is, when a cased letter stands before it
  and none after it, characters without case influence (`isCaseIgnorable`) being passed over;
* `sameAsciiLetters` regards the letters `A` to `Z` and `a` to `z` only.
-/

import Downlink.Text.CaseTable

namespace Downlink.Text

/-- Whether the character is one of the letters of the run. -/
def CaseRun.holds (run : CaseRun) (char : Char) : Bool :=
  run.first ≤ char.toNat && char.toNat ≤ run.last && (char.toNat - run.first) % run.stride == 0

/-- The lower-case form of a letter of the run. -/
def CaseRun.lower (run : CaseRun) (char : Char) : Char :=
  Char.ofNat (char.toNat + run.shift).toNat

/-- The lower-case form of a character that stands alone. -/
def lowerChar (char : Char) : List Char :=
  if char = 'İ' then ['i', '\u0307']
  else match caseRuns.find? (·.holds char) with
    | some run => [run.lower char]
    | none => [char]

/-- Whether the nearest character that matters for case is a cased letter. -/
def reachesCased (neighbours : List Char) : Bool :=
  match neighbours.dropWhile isCaseIgnorable with
  | [] => false
  | nearest :: _ => isCased nearest

/-- Lower-cases characters that stand after `before`, whose last character comes first. -/
def lowerAfter (before : List Char) : List Char → List Char
  | [] => []
  | char :: after =>
    let lower :=
      if char = 'Σ' then
        [if reachesCased before && !reachesCased after then 'ς' else 'σ']
      else lowerChar char
    lower ++ lowerAfter (char :: before) after

/-- The text in lower case. -/
def lowercase (text : String) : String :=
  String.ofList (lowerAfter [] text.toList)

/-- Whether two texts differ at most in the case of ASCII letters. -/
def sameAsciiLetters (first second : String) : Bool :=
  first.toList.map Char.toLower == second.toList.map Char.toLower

end Downlink.Text
