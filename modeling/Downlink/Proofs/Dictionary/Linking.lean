/-
**Conversions that a point has without naming them.**

A time field has the conversion of its time code, whatever its definition says, and a point that
names no conversion has the identity (`PointDefinition.reserved?`). The dictionary finds these
conversions by their names too, in the one table of those it has of itself and those it is given,
so that one it is given under such a name comes in their place:

* `getElem?_conversions`: a name means the last conversion given under it, or else the dictionary's
  own one;
* `linked_conversion_of_reserved`: which conversion a point is linked to;
* `Dictionary.ofDefinitions_reserved`: the points have the conversions that are reserved for them
  exactly when no other one is given under the name of one that a point asks for;
* `Dictionary.not_keepsReserved_shadowed`: a dictionary in which they do not.
-/

import Downlink.Dictionary.Basic

namespace Downlink

/-! ### Names of conversions -/

namespace Conversion

/-- The conversions that a point can have without naming them. -/
def reserved : List Conversion :=
  [identity, time40, time42, time44]

/-- The last of some conversions that has a name. -/
def lastNamed? (name : String) (conversions : List Conversion) : Option Conversion :=
  conversions.reverse.find? (·.name == name)

/-- A dictionary has the reserved conversions of itself. -/
theorem lastNamed?_builtins {wanted : Conversion} (member : wanted ∈ reserved) :
    lastNamed? wanted.name builtins = some wanted := by
  simp only [reserved, List.mem_cons, List.not_mem_nil, or_false] at member
  rcases member with rfl | rfl | rfl | rfl <;> rfl

/-- A name means the last conversion given under it, or else the one that every dictionary has. -/
theorem getElem?_conversions (conversions : List Conversion) (wanted : String) :
    (lastByKey name (builtins ++ conversions))[wanted]? =
      (lastNamed? wanted conversions).or (lastNamed? wanted builtins) := by
  rw [getElem?_lastByKey, List.reverse_append, List.find?_append]
  rfl

/-- A reserved conversion is found by its name unless another one is given under it. -/
theorem getElem?_conversions_of_reserved (conversions : List Conversion) {wanted : Conversion}
    (member : wanted ∈ reserved) :
    (lastByKey name (builtins ++ conversions))[wanted.name]? =
      some ((lastNamed? wanted.name conversions).getD wanted) := by
  rw [getElem?_conversions, lastNamed?_builtins member]
  cases lastNamed? wanted.name conversions <;> rfl

end Conversion

/-! ### Points with a reserved conversion -/

namespace FieldType

/-- The conversion of the time code that a field holds. -/
def timeConversion? : FieldType → Option Conversion
  | time40 => some .time40
  | time42 => some .time42
  | time44 => some .time44
  | _ => none

/-- The conversions of time codes are reserved. -/
theorem mem_reserved_of_timeConversion? {type : FieldType} {conversion : Conversion}
    (found : type.timeConversion? = some conversion) : conversion ∈ Conversion.reserved := by
  cases type
  case time40 | time42 | time44 =>
    obtain rfl := Option.some.inj found
    simp [Conversion.reserved]
  all_goals cases found

/-- A field that is made a bit field holds no time code before or after. -/
theorem timeConversion?_narrowed (type : FieldType) (start stop : Nat) :
    (type.narrowed start stop).timeConversion? = type.timeConversion? := by
  cases type
  case i12 | i1234 => exact (apply_ite timeConversion? _ _ _).trans (ite_self none)
  all_goals rfl

end FieldType

namespace PointDefinition

/-- The conversion that a point has without naming it: that of its time code for a time field, and
the identity for another point that names none. -/
def reserved? (point : PointDefinition) : Option Conversion :=
  point.fieldType.timeConversion?.or
    (if point.conversionName = "" then some .identity else none)

/-- Linking a point does not change what it asks for. -/
theorem reserved?_linked (point : PointDefinition) (apid : Nat) (conversions : ConversionTable) :
    (point.linked apid conversions).reserved? = point.reserved? := by
  rw [reserved?, reserved?, linked, FieldType.timeConversion?_narrowed]

/-- A point is linked by the name of the conversion that it has without naming it, or else by the
name that it gives. -/
theorem linkedName_eq (point : PointDefinition) :
    point.linkedName =
      (point.fieldType.timeConversion?.map Conversion.name).getD
        (if point.conversionName = "" then Conversion.identity.name else point.conversionName) := by
  unfold linkedName
  cases point.fieldType <;> rfl

/-- What a point asks for is a reserved conversion, and the point is linked to it by its name. -/
theorem linkedName_of_reserved {point : PointDefinition} {wanted : Conversion}
    (asked : point.reserved? = some wanted) :
    point.linkedName = wanted.name ∧ wanted ∈ Conversion.reserved := by
  rw [linkedName_eq]
  unfold reserved? at asked
  cases time : point.fieldType.timeConversion? with
  | some conversion =>
    rw [time] at asked
    obtain rfl := Option.some.inj asked
    exact ⟨rfl, FieldType.mem_reserved_of_timeConversion? time⟩
  | none =>
    rw [time, Option.none_or] at asked
    obtain ⟨unnamed, asked⟩ := Option.ite_none_right_eq_some.mp asked
    obtain rfl := Option.some.inj asked
    simp [unnamed, Conversion.reserved]

/-- A point that asks for a reserved conversion is linked to the last one given under its name. -/
theorem linked_conversion_of_reserved {point : PointDefinition} {wanted : Conversion}
    (asked : point.reserved? = some wanted) (apid : Nat) (conversions : List Conversion) :
    (point.linked apid
        (lastByKey Conversion.name (Conversion.builtins ++ conversions))).conversion =
      (Conversion.lastNamed? wanted.name conversions).getD wanted := by
  obtain ⟨named, member⟩ := linkedName_of_reserved asked
  rw [linked, named, Conversion.getElem?_conversions_of_reserved conversions member]
  rfl

end PointDefinition

/-! ### Dictionaries -/

namespace Dictionary

/-- Every point has the conversion that is reserved for it. -/
def KeepsReserved (dictionary : Dictionary) : Prop :=
  ∀ packet ∈ dictionary.packets, ∀ point ∈ packet.points, ∀ wanted ∈ point.reserved?,
    point.conversion = wanted

/-- The points of a dictionary are the linked points of its definitions. -/
theorem forall_points_ofDefinitions (packets : List PacketDefinition)
    (conversions : List Conversion) (holds : PointDefinition → Prop) :
    (∀ packet ∈ (ofDefinitions packets conversions).packets, ∀ point ∈ packet.points, holds point) ↔
      ∀ packet ∈ packets, ∀ point ∈ packet.points,
        holds (point.linked packet.apid
          (lastByKey Conversion.name (Conversion.builtins ++ conversions))) := by
  simp only [ofDefinitions, PacketDefinition.linked, List.forall_mem_map]

/-- **A point that asks for a reserved conversion has the last one given under its name, or else the
reserved one.** The points have the conversions that are reserved for them exactly when no other one
is given under the name of one that a point asks for. -/
theorem ofDefinitions_reserved (packets : List PacketDefinition) (conversions : List Conversion) :
    (∀ packet ∈ (ofDefinitions packets conversions).packets, ∀ point ∈ packet.points,
        ∀ wanted ∈ point.reserved?,
          point.conversion = (Conversion.lastNamed? wanted.name conversions).getD wanted) ∧
      ((ofDefinitions packets conversions).KeepsReserved ↔
        ∀ packet ∈ packets, ∀ point ∈ packet.points, ∀ wanted ∈ point.reserved?,
          ∀ supplied ∈ Conversion.lastNamed? wanted.name conversions, supplied = wanted) := by
  have linked : ∀ packet ∈ (ofDefinitions packets conversions).packets,
      ∀ point ∈ packet.points, ∀ wanted ∈ point.reserved?,
        point.conversion = (Conversion.lastNamed? wanted.name conversions).getD wanted := by
    rw [forall_points_ofDefinitions]
    intro packet _ point _ wanted asked
    rw [PointDefinition.reserved?_linked] at asked
    exact PointDefinition.linked_conversion_of_reserved asked packet.apid conversions
  refine ⟨linked, ?_⟩
  rw [KeepsReserved, forall_points_ofDefinitions]
  refine forall₄_congr fun packet _ point _ => ?_
  rw [PointDefinition.reserved?_linked]
  refine forall₂_congr fun wanted asked => ?_
  rw [PointDefinition.linked_conversion_of_reserved asked]
  cases Conversion.lastNamed? wanted.name conversions <;> simp

/-- A time field. -/
def shadowedTime : PointDefinition :=
  { id := "HK.TIME", name := "TIME", fieldType := .time42 }

/-- A field that names no conversion. -/
def shadowedMode : PointDefinition :=
  { id := "HK.MODE", name := "MODE", fieldType := .u1 }

/-- Conversions under the names of those that these two fields ask for. -/
def shadowing : List Conversion :=
  [.polynomial { name := "Time42 Conversion", order := 0, coefficients := [1.0] },
    .discreteList { name := "Identity", values := ["OFF"] }]

/-- The dictionary of these fields and conversions. -/
def shadowed : Dictionary :=
  ofDefinitions
    [{ apid := 100, id := "HK", name := "HK", points := [shadowedTime, shadowedMode] }] shadowing

/-- **A dictionary that is given other conversions under the names of the reserved ones does not
keep them.** Both of its fields have a conversion that it was given. -/
theorem not_keepsReserved_shadowed :
    ¬ shadowed.KeepsReserved ∧
      shadowed.packets.map (·.points.map (·.conversion)) = [shadowing] := by
  have time := PointDefinition.linked_conversion_of_reserved
    (rfl : shadowedTime.reserved? = some .time42) 100 shadowing
  have mode := PointDefinition.linked_conversion_of_reserved
    (rfl : shadowedMode.reserved? = some .identity) 100 shadowing
  constructor
  · intro keeps
    rw [KeepsReserved, shadowed, forall_points_ofDefinitions] at keeps
    have kept := keeps _ List.mem_cons_self shadowedTime List.mem_cons_self .time42 rfl
    exact Conversion.noConfusion (time.symm.trans kept)
  · simp only [shadowed, ofDefinitions, PacketDefinition.linked, List.map_cons, List.map_nil, time,
      mode]
    rfl

end Dictionary

end Downlink
