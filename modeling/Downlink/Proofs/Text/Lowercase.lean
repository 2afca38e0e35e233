/-
**Lower case and the letters of ASCII.**

Texts that differ at most in the case of ASCII letters are the same in lower case. An upper-case one
of these letters has the lower-case one as its lower-case form, and for a capital sigma it does not
matter which of the two stands beside it, since both are cased letters. Texts that are the same in
lower case need not be the same but for ASCII letters, unless they have ASCII characters only.

* `lowerChar_ascii`: the lower-case form of an ASCII character;
* `lowerAfter_map_toLower`: lower-casing does not regard the case of ASCII letters;
* `lowercase_of_sameAsciiLetters`, `sameAsciiLetters_iff_of_ascii`: how the two rules are related.
-/

import Downlink.Text.Lowercase
import Mathlib

namespace Downlink.Text

/-! ### ASCII letters -/

variable {char : Char}

theorem isUpper_iff : char.isUpper ↔ 0x41 ≤ char.toNat ∧ char.toNat ≤ 0x5a := by
  simp [Char.isUpper, UInt32.le_iff_toNat_le]

theorem toNat_toLower (upper : char.isUpper) : char.toLower.toNat = char.toNat + 0x20 := by
  obtain ⟨low, high⟩ := isUpper_iff.mp upper
  have valid : (char.toNat + 0x20).isValidChar := .inl (by omega)
  rw [Char.toLower_eq_of_isUpper upper, Char.toNat_ofNat, if_pos valid]

/-- What holds of both forms of a letter, or of neither, does not regard the case of ASCII
letters. -/
theorem toLower_congr {Value : Type} (value : Char → Value)
    (letters : ∀ char, char.isUpper → value char.toLower = value char) (char : Char) :
    value char.toLower = value char := by
  by_cases upper : char.isUpper
  case pos => exact letters char upper
  case neg => rw [Char.toLower_eq_of_not_isUpper upper]

/-! ### Neighbours of a letter -/

namespace CodeRanges

variable {ranges : CodeRanges}

theorem contains_of_mem {range : Nat × Nat} (member : range ∈ ranges) (low : range.1 ≤ char.toNat)
    (high : char.toNat ≤ range.2) : ranges.contains char := by
  rw [contains, List.any_eq_true]
  exact ⟨range, member, by simp [low, high]⟩

theorem not_contains (apart : ∀ range ∈ ranges, char.toNat < range.1 ∨ range.2 < char.toNat) :
    ranges.contains char = false := by
  rw [contains, List.any_eq_false]
  intro range member inside
  simp only [Bool.and_eq_true, decide_eq_true_eq] at inside
  have outside := apart range member
  omega

end CodeRanges

/-- Both forms of an ASCII letter are cased. -/
theorem isCased_toLower (char : Char) : isCased char.toLower = isCased char := by
  refine toLower_congr isCased (fun char upper => ?_) char
  have worth := toNat_toLower upper
  obtain ⟨low, high⟩ := isUpper_iff.mp upper
  have smallLetters : (0x61, 0x7a) ∈ casedRanges := by simp [casedRanges]
  have largeLetters : (0x41, 0x5a) ∈ casedRanges := by simp [casedRanges]
  have small : isCased char.toLower :=
    CodeRanges.contains_of_mem smallLetters (show 0x61 ≤ char.toLower.toNat by omega)
      (show char.toLower.toNat ≤ 0x7a by omega)
  have large : isCased char := CodeRanges.contains_of_mem largeLetters low high
  rw [small, large]

/-- No character without case influence is an ASCII letter. -/
theorem caseIgnorableRanges_apart : ∀ range ∈ caseIgnorableRanges,
    range.2 < 0x41 ∨ 0x5a < range.1 ∧ range.2 < 0x61 ∨ 0x7a < range.1 := by
  decide +kernel

theorem isCaseIgnorable_toLower (char : Char) :
    isCaseIgnorable char.toLower = isCaseIgnorable char := by
  refine toLower_congr isCaseIgnorable (fun char upper => ?_) char
  have worth := toNat_toLower upper
  obtain ⟨low, high⟩ := isUpper_iff.mp upper
  have small : isCaseIgnorable char.toLower = false :=
    CodeRanges.not_contains fun range member => by
      have apart := caseIgnorableRanges_apart range member
      omega
  have large : isCaseIgnorable char = false :=
    CodeRanges.not_contains fun range member => by
      have apart := caseIgnorableRanges_apart range member
      omega
  rw [small, large]

theorem reachesCased_map_toLower (neighbours : List Char) :
    reachesCased (neighbours.map Char.toLower) = reachesCased neighbours := by
  have ignored : isCaseIgnorable ∘ Char.toLower = isCaseIgnorable :=
    funext isCaseIgnorable_toLower
  rw [reachesCased, List.dropWhile_map, ignored, reachesCased]
  cases neighbours.dropWhile isCaseIgnorable with
  | nil => rfl
  | cons nearest _ => exact isCased_toLower nearest

/-! ### Lower-case forms -/

/-- The letters that have a lower-case form, but for those of ASCII, lie beyond ASCII. -/
theorem caseRuns_beyond : ∀ run ∈ caseRuns.tail, 0x80 ≤ run.first := by
  decide +kernel

theorem lowerChar_ascii (ascii : char.toNat < 0x80) : lowerChar char = [char.toLower] := by
  have plain : char ≠ 'İ' := by
    rintro rfl
    exact absurd ascii (by decide)
  have letters : caseRuns = ⟨0x41, 0x5a, 1, 0x20⟩ :: caseRuns.tail := rfl
  rw [lowerChar, if_neg plain, letters]
  by_cases upper : char.isUpper
  case pos =>
    have held : CaseRun.holds ⟨0x41, 0x5a, 1, 0x20⟩ char := by
      simp [CaseRun.holds, isUpper_iff.mp upper, Nat.mod_one]
    have found : (⟨0x41, 0x5a, 1, 0x20⟩ :: caseRuns.tail).find? (·.holds char) =
        some ⟨0x41, 0x5a, 1, 0x20⟩ := List.find?_cons_of_pos held
    have lower : CaseRun.lower ⟨0x41, 0x5a, 1, 0x20⟩ char = char.toLower := by
      rw [Char.toLower_eq_of_isUpper upper]
      rfl
    rw [found]
    exact congrArg ([·]) lower
  case neg =>
    have missing : (⟨0x41, 0x5a, 1, 0x20⟩ :: caseRuns.tail).find? (·.holds char) = none := by
      rw [List.find?_eq_none]
      intro run member held
      simp only [CaseRun.holds, Bool.and_eq_true, decide_eq_true_eq] at held
      rcases List.mem_cons.mp member with rfl | beyond
      · exact upper (isUpper_iff.mpr held.1)
      · have far := caseRuns_beyond run beyond
        omega
    rw [missing, Char.toLower_eq_of_not_isUpper upper]

theorem lowerChar_toLower (char : Char) : lowerChar char.toLower = lowerChar char := by
  refine toLower_congr lowerChar (fun char upper => ?_) char
  have worth := toNat_toLower upper
  have high := (isUpper_iff.mp upper).2
  rw [lowerChar_ascii (by omega), lowerChar_ascii (by omega), Char.toLower_toLower_eq_toLower]

theorem toLower_eq_sigma (char : Char) : char.toLower = 'Σ' ↔ char = 'Σ' := by
  have same := toLower_congr (fun char => decide (char = 'Σ')) (fun char upper => ?_) char
  · simpa using same
  · have worth := toNat_toLower upper
    have high := (isUpper_iff.mp upper).2
    have neither : char.toLower ≠ 'Σ' ∧ char ≠ 'Σ' := by
      constructor
      all_goals
        intro sigma
        have far : ('Σ').toNat = 0x3a3 := rfl
        rw [← sigma] at far
        omega
    simp [neither]

/-- Lower-casing does not regard the case of ASCII letters. -/
theorem lowerAfter_map_toLower (before text : List Char) :
    lowerAfter (before.map Char.toLower) (text.map Char.toLower) = lowerAfter before text := by
  induction text generalizing before with
  | nil => rfl
  | cons char after ih =>
    have behind := ih (char :: before)
    rw [List.map_cons] at behind
    rw [List.map_cons, lowerAfter, lowerAfter, behind, lowerChar_toLower,
      reachesCased_map_toLower, reachesCased_map_toLower]
    simp only [toLower_eq_sigma]

/-! ### The two rules -/

/-- Texts that differ at most in the case of ASCII letters are the same in lower case. -/
theorem lowercase_of_sameAsciiLetters {first second : String}
    (same : sameAsciiLetters first second) : lowercase first = lowercase second := by
  have letters : first.toList.map Char.toLower = second.toList.map Char.toLower :=
    beq_iff_eq.mp same
  rw [lowercase, lowercase, ← lowerAfter_map_toLower [] first.toList, letters,
    lowerAfter_map_toLower [] second.toList]

/-- A text of ASCII characters is lower-cased letter by letter. -/
theorem lowerAfter_ascii {text : List Char} (ascii : ∀ char ∈ text, char.toNat < 0x80)
    (before : List Char) : lowerAfter before text = text.map Char.toLower := by
  induction text generalizing before with
  | nil => rfl
  | cons char after ih =>
    obtain ⟨here, others⟩ := List.forall_mem_cons.mp ascii
    have plain : char ≠ 'Σ' := by
      rintro rfl
      exact absurd here (by decide)
    rw [lowerAfter, if_neg plain, lowerChar_ascii here, ih others]
    rfl

/-- ASCII texts are the same in lower case exactly if they differ at most in the case of letters. -/
theorem sameAsciiLetters_iff_of_ascii {first second : String}
    (ascii : ∀ char ∈ first.toList, char.toNat < 0x80)
    (asciiToo : ∀ char ∈ second.toList, char.toNat < 0x80) :
    sameAsciiLetters first second ↔ lowercase first = lowercase second := by
  rw [sameAsciiLetters, beq_iff_eq, lowercase, lowercase, lowerAfter_ascii ascii,
    lowerAfter_ascii asciiToo, String.ofList_inj]

end Downlink.Text
