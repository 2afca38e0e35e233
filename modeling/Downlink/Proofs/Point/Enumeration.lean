/-
**Words and the integers that they stand for.**

A list and a map of words can tell all their words together with the integers that these stand for.
An integer is then converted to the first word that is told for it, and one without a word to what
the conversion has for such integers. The integers of a list are counted upwards from the lowest of
them, and the word of an integer is found by counting back; neither count leaves the range of 64-bit
integers, the former because it stops at the largest and the latter because it gives up.

* `DiscreteList.findsFirst_get?`, `DiscreteMap.findsFirst_get?`: the word of an integer is the first
  one that is told for it;
* `DiscreteList.countedEnumeration_eq`, `DiscreteList.countedGet?_eq`: both counts in 64-bit
  integers;
* `Conversion.apply_enumerated`: the engineering values of integers with and without a word.
-/

import Downlink.Proofs.Point.ReturnedKind
import Downlink.Proofs.Search

namespace Downlink

/-! ### Lists -/

namespace DiscreteList

variable {list : DiscreteList} {index : Int64}

/-- The integer of the word at a place. -/
def integerAt (list : DiscreteList) (place : Nat) : Int64 :=
  Int64.ofInt (min (list.lowIndex.toInt + place) Int64.maxValue.toInt)

theorem getElem?_enumeration (list : DiscreteList) (place : Nat) :
    list.enumeration[place]? = list.values[place]?.map (EnumEntry.mk (list.integerAt place)) :=
  List.getElem?_mapIdx

theorem toInt_integerAt (list : DiscreteList) (place : Nat) :
    (list.integerAt place).toInt = min (list.lowIndex.toInt + place) Int64.maxValue.toInt := by
  have low := list.lowIndex.le_toInt
  have greatest := Int64.toInt_maxValue
  exact Int64.toInt_ofInt_of_le (by omega) (by omega)

/-- An integer is told first at the place that is as far behind the first word as the integer is
above the lowest one. -/
theorem integerAt_place {place : Nat} (counted : index.toInt - list.lowIndex.toInt = place) :
    list.integerAt place = index := by
  have high := index.toInt_le
  rw [← Int64.toInt_inj, toInt_integerAt]
  omega

theorem integerAt_ne {place : Nat}
    (apart : list.lowIndex.toInt + place < index.toInt ∨ index.toInt < list.lowIndex.toInt) :
    list.integerAt place ≠ index := by
  have low := list.lowIndex.toInt_le
  intro same
  rw [← Int64.toInt_inj, toInt_integerAt] at same
  omega

/-- An entry of the enumeration is for the integer of its place. -/
theorem value_enumeration {place : Nat} {entry : EnumEntry}
    (told : list.enumeration[place]? = some entry) :
    entry.value = list.integerAt place ∧ place < list.values.length := by
  rw [getElem?_enumeration] at told
  obtain ⟨word, listed, rfl⟩ := Option.map_eq_some_iff.mp told
  exact ⟨rfl, (List.getElem?_eq_some_iff.mp listed).1⟩

/-- The word of an integer is that of the first entry for it. -/
theorem findsFirst_get? (list : DiscreteList) (index : Int64) :
    FindsFirst (·.value = index) list.enumeration ((list.get? index).map (EnumEntry.mk index)) := by
  unfold get?
  by_cases above : 0 ≤ index.toInt - list.lowIndex.toInt
  case neg =>
    rw [if_neg above]
    intro entry member
    obtain ⟨place, told⟩ := List.mem_iff_getElem?.mp member
    show entry.value ≠ index
    rw [(value_enumeration told).1]
    exact integerAt_ne (.inr (by omega))
  case pos =>
    obtain ⟨place, counted⟩ := Int.eq_ofNat_of_zero_le above
    rw [if_pos above, counted, Int.toNat_natCast]
    have earlier : ∀ before < place, ∀ entry ∈ list.enumeration[before]?, entry.value ≠ index := by
      intro before less entry told
      rw [(value_enumeration told).1]
      exact integerAt_ne (.inl (by omega))
    cases listed : list.values[place]? with
    | some word =>
      refine ⟨place, ?_, rfl, earlier⟩
      rw [getElem?_enumeration, listed, integerAt_place counted]
      rfl
    | none =>
      intro entry member
      obtain ⟨before, told⟩ := List.mem_iff_getElem?.mp member
      have inside := (value_enumeration told).2
      have short := List.getElem?_eq_none_iff.mp listed
      exact earlier before (Nat.lt_of_lt_of_le inside short) entry told

end DiscreteList

/-! ### Maps -/

namespace DiscreteMap

/-- The word of an integer is that of the first entry for it. -/
theorem findsFirst_get? (map : DiscreteMap) (index : Int64) :
    FindsFirst (·.value = index) map.enumeration ((map.get? index).map (EnumEntry.mk index)) := by
  rw [findsFirst_iff fun _ => beq_iff_eq]
  exact find?_enumeration map index

end DiscreteMap

/-! ### Counting in 64-bit integers -/

/-- The difference of two 64-bit integers, if it is one itself. -/
def difference? (first second : Int64) : Option Int64 :=
  let exact := first.toInt - second.toInt
  if Int64.minValue.toInt ≤ exact ∧ exact ≤ Int64.maxValue.toInt then some (Int64.ofInt exact)
  else none

/-- The sum of two 64-bit integers, or the one that is nearest to it. -/
def nearestSum (first second : Int64) : Int64 :=
  Int64.ofInt (max Int64.minValue.toInt (min (first.toInt + second.toInt) Int64.maxValue.toInt))

namespace DiscreteList

/-- The words with their integers, the places being 64-bit integers. -/
def countedEnumeration (list : DiscreteList) : List EnumEntry :=
  list.values.mapIdx fun place word => ⟨nearestSum list.lowIndex (Int64.ofNat place), word⟩

/-- The word for an integer, whose place is a 64-bit integer. -/
def countedGet? (list : DiscreteList) (index : Int64) : Option String :=
  match difference? index list.lowIndex with
  | some place => if 0 ≤ place.toInt then list.values[place.toInt.toNat]? else none
  | none => none

variable {list : DiscreteList}

/-- The places of a list that can be held are 64-bit integers, and counting from the lowest integer
stops at the largest. -/
theorem countedEnumeration_eq (held : list.values.length < bufferBound) :
    list.countedEnumeration = list.enumeration := by
  apply List.ext_getElem?
  intro place
  rw [countedEnumeration, List.getElem?_mapIdx, getElem?_enumeration]
  cases listed : list.values[place]? with
  | none => rfl
  | some word =>
    have inside := (List.getElem?_eq_some_iff.mp listed).1
    have low := list.lowIndex.le_toInt
    have least := Int64.toInt_minValue
    have greatest := Int64.toInt_maxValue
    have counted : (Int64.ofNat place).toInt = place := by
      apply Int64.toInt_ofNat_of_lt
      rw [bufferBound, Nat.one_shiftLeft] at held
      exact Nat.lt_trans inside held
    rw [nearestSum, counted, Int.max_eq_right (by omega)]
    rfl

/-- Where the place is no 64-bit integer, no list that can be held has a word. -/
theorem countedGet?_eq (held : list.values.length < bufferBound) (index : Int64) :
    list.countedGet? index = list.get? index := by
  have low := list.lowIndex.le_toInt
  have high := index.toInt_lt
  have least := Int64.toInt_minValue
  have greatest := Int64.toInt_maxValue
  unfold countedGet? difference? get?
  by_cases inRange : Int64.minValue.toInt ≤ index.toInt - list.lowIndex.toInt ∧
      index.toInt - list.lowIndex.toInt ≤ Int64.maxValue.toInt
  case pos =>
    rw [if_pos inRange]
    simp only [Int64.toInt_ofInt_of_le (show -2 ^ 63 ≤ index.toInt - list.lowIndex.toInt by omega)
      (by omega)]
  case neg =>
    rw [if_neg inRange]
    show none = if 0 ≤ index.toInt - list.lowIndex.toInt then _ else none
    split
    case isFalse => rfl
    case isTrue above =>
      have far : list.values.length ≤ (index.toInt - list.lowIndex.toInt).toNat := by
        rw [bufferBound, Nat.one_shiftLeft] at held
        omega
      exact (List.getElem?_eq_none far).symm

end DiscreteList

/-! ### Engineering values -/

namespace Conversion

section Integers

variable {raw : RawValue} {index : Int64}

theorem apply_discreteList (read : raw.toInt64 = .ok index) (list : DiscreteList) :
    (discreteList list).apply raw =
      .ok (.enumeration ((list.get? index).getD DiscreteList.illegal)) := by
  rw [apply, convert, read]
  rfl

theorem apply_discreteMap (read : raw.toInt64 = .ok index) (map : DiscreteMap) :
    (discreteMap map).apply raw =
      (map.valueOf index).mapError (.conversionFailed map.name) := by
  rw [apply, convert, read]
  rfl

end Integers

/-- The conversion looks up words, in a list or in a map. -/
def IsDiscrete : Conversion → Prop
  | discreteList _ | discreteMap _ => True
  | _ => False

/-- **An integer is converted to the first word that is told for it.** One without a word becomes
the word for illegal integers in a list; in a map 0 becomes the number 0 and any other integer a
failure. -/
theorem apply_enumerated {conversion : Conversion} (discrete : conversion.IsDiscrete)
    {raw : RawValue} (numeric : raw.isNumeric) :
    ∃ entries index, conversion.enumeration = some entries ∧ raw.toInt64 = .ok index ∧
      (∀ entry, FindsFirst (·.value = index) entries (some entry) →
        conversion.apply raw = .ok (.enumeration entry.word)) ∧
      ((∀ entry ∈ entries, entry.value ≠ index) →
        (∀ list, conversion = discreteList list →
          conversion.apply raw = .ok (.enumeration "illegal_conversion")) ∧
        ∀ map, conversion = discreteMap map →
          conversion.apply raw =
            if index = 0 then .ok (.number 0)
            else .error (.conversionFailed map.name (.unmapped index.toInt))) ∧
      ∀ list, conversion = discreteList list → list.values.length < bufferBound →
        list.countedEnumeration = entries ∧ list.countedGet? index = list.get? index := by
  obtain ⟨index, read⟩ := RawValue.exists_toInt64 numeric
  cases conversion with
  | discreteList list =>
    have first := list.findsFirst_get? index
    refine ⟨list.enumeration, index, rfl, read, fun entry found => ?_,
      fun unlisted => ⟨fun _ _ => ?_, nofun⟩, ?_⟩
    · obtain ⟨word, given, rfl⟩ := Option.map_eq_some_iff.mp (first.unique found)
      rw [apply_discreteList read, given]
      rfl
    · have missing := Option.map_eq_none_iff.mp (first.eq_none unlisted)
      rw [apply_discreteList read, missing]
      rfl
    · rintro _ ⟨⟩ held
      exact ⟨DiscreteList.countedEnumeration_eq held, DiscreteList.countedGet?_eq held index⟩
  | discreteMap map =>
    have first := map.findsFirst_get? index
    refine ⟨map.enumeration, index, rfl, read, fun entry found => ?_,
      fun unlisted => ⟨nofun, ?_⟩, nofun⟩
    · obtain ⟨word, given, rfl⟩ := Option.map_eq_some_iff.mp (first.unique found)
      rw [apply_discreteMap read, DiscreteMap.valueOf, given]
      rfl
    · rintro _ ⟨⟩
      have missing := Option.map_eq_none_iff.mp (first.eq_none unlisted)
      rw [apply_discreteMap read, DiscreteMap.valueOf, missing]
      exact apply_ite (Except.mapError _) _ _ _
  | _ => cases discrete

/-- Three words, of which the last two are told for the largest integer. -/
def crowdedList : DiscreteList :=
  { name := "late", values := ["LATE", "LAST", "BEYOND"], lowIndex := Int64.maxValue - 1 }

/-- Two words for 5, and one without an integer. -/
def crowdedMap : DiscreteMap :=
  { name := "state", indices := [5, 5], values := ["ON", "OFF", "STUCK"] }

/-- Where several words are told for an integer it is converted to the first one, and a map fails
for an integer that no word is told for. -/
theorem apply_crowded :
    (discreteList crowdedList).IsDiscrete ∧ (discreteMap crowdedMap).IsDiscrete ∧
      (RawValue.int64 Int64.maxValue).isNumeric ∧ (RawValue.uint8 5).isNumeric ∧
      (discreteList crowdedList).apply (.int64 Int64.maxValue) = .ok (.enumeration "LAST") ∧
      (discreteMap crowdedMap).apply (.uint8 5) = .ok (.enumeration "ON") ∧
      (discreteMap crowdedMap).apply (.uint8 7) =
        .error (.conversionFailed "state" (.unmapped 7)) := by
  have ofList : (discreteList crowdedList).IsDiscrete := trivial
  have ofMap : (discreteMap crowdedMap).IsDiscrete := trivial
  have numericLast : (RawValue.int64 Int64.maxValue).isNumeric := rfl
  have numericFive : (RawValue.uint8 5).isNumeric := rfl
  have numericSeven : (RawValue.uint8 7).isNumeric := rfl
  obtain ⟨_, last, ⟨⟩, readLast, worded, -⟩ := apply_enumerated ofList numericLast
  obtain ⟨_, five, ⟨⟩, readFive, given, -⟩ := apply_enumerated ofMap numericFive
  obtain ⟨_, seven, ⟨⟩, readSeven, -, missing, -⟩ := apply_enumerated ofMap numericSeven
  obtain rfl := Except.ok.inj readLast
  obtain rfl := Except.ok.inj readFive
  obtain rfl := Except.ok.inj readSeven
  refine ⟨ofList, ofMap, numericLast, numericFive, worded ⟨Int64.maxValue, "LAST"⟩ ?_,
    given ⟨5, "ON"⟩ ?_, ?_⟩
  · exact (findsFirst_iff fun _ => beq_iff_eq).mpr (by decide)
  · exact (findsFirst_iff fun _ => beq_iff_eq).mpr (by decide)
  · exact (missing (by decide)).2 crowdedMap rfl

end Conversion

end Downlink
