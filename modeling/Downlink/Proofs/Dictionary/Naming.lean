/-
**Conversions that a point names.**

A point that is no time field and gives the name of a conversion has the last conversion of this
name, those that every dictionary has coming before those that it is given. If there is none the
point has the identity, so that it decodes to its raw value, and the dictionary reports it
(`PointDefinition.NamesUnknown`).

* `PointDefinition.linked_conversion_of_last`, `PointDefinition.linked_conversion_of_unknown`: which
  conversion a point is linked to;
* `PointDefinition.value_of_identity`: what a point without a conversion decodes to;
* `PointDefinition.isNone_linkedName_iff`: which points are reported;
* `Dictionary.ofDefinitions_named`: all of this for the points of a dictionary.
-/

import Downlink.Proofs.Dictionary.Construction
import Downlink.Proofs.Dictionary.SignedFields
import Downlink.Proofs.Search

namespace Downlink

/-- The conversion that the table has for a name is the last one of this name. -/
theorem Conversion.getElem?_of_findsLast {conversions : List Conversion} {wanted : String}
    {found : Option Conversion} (last : FindsLast (·.name = wanted) conversions found) :
    (lastByKey name conversions)[wanted]? = found := by
  rw [getElem?_lastByKey]
  exact (findsFirst_iff fun _ => beq_iff_eq).mp last

namespace PointDefinition

/-- The point gives the name of a conversion and is no time field, which would not regard it. -/
def NamesConversion (point : PointDefinition) : Prop :=
  point.fieldType ∉ [.time40, .time42, .time44] ∧ point.conversionName ≠ ""

/-- The point gives a name that no conversion has. -/
def NamesUnknown (conversions : List Conversion) (point : PointDefinition) : Prop :=
  point.NamesConversion ∧ ∀ conversion ∈ conversions, conversion.name ≠ point.conversionName

instance (point : PointDefinition) : Decidable point.NamesConversion :=
  inferInstanceAs (Decidable (_ ∧ _))

instance (conversions : List Conversion) (point : PointDefinition) :
    Decidable (point.NamesUnknown conversions) :=
  inferInstanceAs (Decidable (_ ∧ _))

variable {point : PointDefinition}

/-- A point names its conversion exactly if it has none without naming it. -/
theorem namesConversion_iff : point.NamesConversion ↔ point.reserved? = none := by
  unfold NamesConversion reserved?
  cases point.fieldType <;> simp [FieldType.timeConversion?]

theorem linkedName_of_namesConversion (names : point.NamesConversion) :
    point.linkedName = point.conversionName := by
  obtain ⟨noTime, named⟩ := names
  unfold linkedName
  split
  case h_1 time | h_2 time | h_3 time => simp [time] at noTime
  case h_4 => exact if_neg named

section Linked

variable {conversions : List Conversion}

/-- A point that names its conversion is linked to the last one of the name. -/
theorem linked_conversion_of_last (names : point.NamesConversion) {conversion : Conversion}
    (last : FindsLast (·.name = point.conversionName) conversions (some conversion)) (apid : Nat) :
    (point.linked apid (lastByKey Conversion.name conversions)).conversion = conversion := by
  rw [linked, linkedName_of_namesConversion names, Conversion.getElem?_of_findsLast last]
  rfl

/-- A name that no conversion has is not in the table. -/
theorem getElem?_of_namesUnknown (unknown : point.NamesUnknown conversions) :
    (lastByKey Conversion.name conversions)[point.linkedName]? = none := by
  obtain ⟨names, lacking⟩ := unknown
  have last : FindsLast (·.name = point.conversionName) conversions none :=
    fun conversion member => lacking conversion (List.mem_reverse.mp member)
  rw [linkedName_of_namesConversion names, Conversion.getElem?_of_findsLast last]

theorem linked_conversion_of_unknown (unknown : point.NamesUnknown conversions) (apid : Nat) :
    (point.linked apid (lastByKey Conversion.name conversions)).conversion = .identity := by
  rw [linked, getElem?_of_namesUnknown unknown]
  rfl

/-- A point with the identity decodes to its raw value. -/
theorem value_of_identity (identity : point.conversion = .identity) {packet : Bytes}
    {raw : RawValue} (read : point.rawValue packet = .ok (.ok raw)) :
    point.value packet = .ok (.ok (.raw raw)) := by
  rw [value, read, identity]
  rfl

/-- The dictionary misses the conversion of a point exactly if the point gives a name that none of
the conversions has. -/
theorem isNone_linkedName_iff :
    (lastByKey Conversion.name (Conversion.builtins ++ conversions))[point.linkedName]?.isNone ↔
      point.NamesUnknown (Conversion.builtins ++ conversions) := by
  constructor
  · intro missing
    cases asked : point.reserved? with
    | some wanted =>
      obtain ⟨named, member⟩ := linkedName_of_reserved asked
      rw [named, Conversion.getElem?_conversions_of_reserved conversions member] at missing
      cases missing
    | none =>
      have names := namesConversion_iff.mpr asked
      rw [linkedName_of_namesConversion names, getElem?_lastByKey, Option.isNone_iff_eq_none,
        List.find?_eq_none] at missing
      exact ⟨names, fun conversion member same =>
        missing conversion (List.mem_reverse.mpr member) (beq_iff_eq.mpr same)⟩
  · intro unknown
    rw [getElem?_of_namesUnknown unknown]
    rfl

end Linked

end PointDefinition

/-! ### Points of a dictionary -/

namespace Dictionary

/-- The ids that are reported are those of the points that give unknown names, in the order of the
definitions. -/
theorem unresolved_ofDefinitions (packets : List PacketDefinition)
    (conversions : List Conversion) :
    (ofDefinitions packets conversions).unresolved =
      ((packets.flatMap (·.points)).filter
        (·.NamesUnknown (Conversion.builtins ++ conversions))).map (·.id) := by
  have reported : ∀ packet : PacketDefinition,
      packet.unresolved (lastByKey Conversion.name (Conversion.builtins ++ conversions)) =
        packet.points.filter (·.NamesUnknown (Conversion.builtins ++ conversions)) := by
    intro packet
    refine List.filter_congr fun point _ => ?_
    rw [Bool.eq_iff_iff, PointDefinition.isNone_linkedName_iff, decide_eq_true_iff]
  simp only [ofDefinitions, reported, List.filter_flatMap]

/-- **A point that names its conversion has the last one of the name, or else the identity, with
which it decodes to its raw value.** The points without a conversion of the name that they give are
exactly those that the dictionary reports, in the order of the definitions. One walk links the
points and notes these. -/
theorem ofDefinitions_named (packets : List PacketDefinition) (conversions : List Conversion) :
    (∀ (place index : Nat) (packet : PacketDefinition) (listed : PointDefinition),
        packets[place]? = some packet → packet.points[index]? = some listed →
        listed.NamesConversion →
        ∃ point, (ofDefinitions packets conversions).pointAt? place index = some point ∧
          (∀ conversion,
            FindsLast (·.name = listed.conversionName) (Conversion.builtins ++ conversions)
                (some conversion) →
              point.conversion = conversion) ∧
          ((∀ conversion ∈ Conversion.builtins ++ conversions,
              conversion.name ≠ listed.conversionName) →
            point.conversion = .identity ∧
              ∀ bytes raw, point.rawValue bytes = .ok (.ok raw) →
                point.value bytes = .ok (.ok (.raw raw)))) ∧
      (ofDefinitions packets conversions).unresolved =
        ((packets.flatMap (·.points)).filter
          (·.NamesUnknown (Conversion.builtins ++ conversions))).map (·.id) ∧
      (linkNoting packets conversions).run [] =
        ((ofDefinitions packets conversions).packets,
          (ofDefinitions packets conversions).unresolved) := by
  refine ⟨fun place index packet listed defined member names => ?_,
    unresolved_ofDefinitions packets conversions, run_linkNoting packets conversions⟩
  refine ⟨_, pointAt?_ofDefinitions conversions defined member, fun conversion last => ?_,
    fun unknown => ?_⟩
  · exact PointDefinition.linked_conversion_of_last names last packet.apid
  · have identity := PointDefinition.linked_conversion_of_unknown ⟨names, unknown⟩ packet.apid
    exact ⟨identity, fun bytes raw read => PointDefinition.value_of_identity identity read⟩

/-- Two conversions of one name. -/
def twoModes : List Conversion :=
  [.discreteList { name := "mode", values := ["OFF"] },
    .discreteList { name := "mode", values := ["SAFE"] }]

/-- A point that gives this name. -/
def modePoint : PointDefinition :=
  { id := "HK.MODE", name := "MODE", fieldType := .u1, conversionName := "mode" }

/-- A point that gives the name of no conversion. -/
def wordPoint : PointDefinition :=
  { id := "HK.WORD", name := "WORD", fieldType := .i12, conversionName := "missing" }

/-- The packets in which these two points lie. -/
def modePacket : PacketDefinition :=
  { apid := 100, id := "HK", name := "HK", points := [modePoint, wordPoint] }

/-- Of two conversions of a name the last one is linked, and a point that gives an unknown name
decodes to its raw value and is reported. -/
theorem ofDefinitions_named_twoModes :
    modePoint.NamesConversion ∧ wordPoint.NamesConversion ∧
      (∃ point, (ofDefinitions [modePacket] twoModes).pointAt? 0 0 = some point ∧
        point.conversion = .discreteList { name := "mode", values := ["SAFE"] }) ∧
      (∃ point, (ofDefinitions [modePacket] twoModes).pointAt? 0 1 = some point ∧
        point.value [0xff, 0xfe] = .ok (.ok (.raw (.int16 (-2))))) ∧
      (ofDefinitions [modePacket] twoModes).unresolved = ["HK.WORD"] := by
  have names : modePoint.NamesConversion := by decide
  have namesWord : wordPoint.NamesConversion := by decide
  have defined : [modePacket][0]? = some modePacket := rfl
  obtain ⟨linked, reported, -⟩ := ofDefinitions_named [modePacket] twoModes
  refine ⟨names, namesWord, ?_, ?_, ?_⟩
  · obtain ⟨point, found, last, -⟩ := linked 0 0 modePacket modePoint defined rfl names
    exact ⟨point, found, last _ ((findsFirst_iff fun _ => beq_iff_eq).mpr rfl)⟩
  · obtain ⟨point, found, -, unknown⟩ := linked 0 1 modePacket wordPoint defined rfl namesWord
    obtain rfl := Option.some.inj (found.symm.trans (pointAt?_ofDefinitions twoModes defined rfl))
    exact ⟨_, found, (unknown (by decide)).2 _ _ rfl⟩
  · rw [reported]
    decide

end Dictionary

end Downlink
