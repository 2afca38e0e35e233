/-
**What a dictionary looks up.**

When a dictionary is made it turns its packets into tables, by their APIDs, names and ids, and their
points into one table by their ids. Where several definitions have one key the first one listed
counts, packet after packet and in each packet point after point, so that every look-up finds what a
search through all definitions would find first. Making a dictionary once more, of its own packets,
changes nothing in it.

* `Dictionary.LooksUpFirst`: what the look-ups of a dictionary have to find;
* `Dictionary.packet?_ofDefinitions`, `Dictionary.point?_ofDefinitions`: the look-ups in the tables
  are searches;
* `findsFirstPoint_find?`: a search through the points of all packets goes packet by packet;
* `PacketDefinition.linked_linked`: of two ways to link a packet the last one counts;
* `Dictionary.ofDefinitions_map_linked`: so it does not matter whether the packets of which a
  dictionary is made were linked before;
* `Dictionary.ofDefinitions_lookups`: all of this taken together.
-/

import Downlink.Proofs.Dictionary.Construction
import Downlink.Proofs.Search

namespace Downlink

/-! ### Points of several packets -/

/-- What is found is the first point for which a condition holds in the first packet that has such a
point, or nothing if no packet has one. -/
def FindsFirstPoint (holds : PointDefinition → Prop) (packets : List PacketDefinition) :
    Option PointDefinition → Prop
  | some point => ∃ packet,
      FindsFirst (fun packet => ∃ point ∈ packet.points, holds point) packets (some packet) ∧
        FindsFirst holds packet.points (some point)
  | none => ∀ packet ∈ packets, ∀ point ∈ packet.points, ¬ holds point

/-- A search through all points is one for a packet and then one in this packet. -/
theorem find?_points (packets : List PacketDefinition) (test : PointDefinition → Bool) :
    (packets.flatMap (·.points)).find? test =
      (packets.find? (·.points.any test)).bind (·.points.find? test) := by
  induction packets with
  | nil => rfl
  | cons packet packets ih =>
    rw [List.flatMap_cons, List.find?_append, List.find?_cons, ih]
    cases listed : packet.points.any test with
    | true =>
      obtain ⟨point, found⟩ := Option.isSome_iff_exists.mp (List.find?_isSome.mpr
        (List.any_eq_true.mp listed))
      rw [found]
      exact found.symm
    | false =>
      have missing : packet.points.find? test = none :=
        List.find?_eq_none.mpr (List.any_eq_false.mp listed)
      rw [missing, Option.none_or]

theorem findsFirstPoint_find? {holds : PointDefinition → Prop} {test : PointDefinition → Bool}
    (tests : ∀ point, test point ↔ holds point) (packets : List PacketDefinition) :
    FindsFirstPoint holds packets ((packets.flatMap (·.points)).find? test) := by
  have lists : ∀ packet : PacketDefinition,
      packet.points.any test ↔ ∃ point ∈ packet.points, holds point := by
    intro packet
    simp only [List.any_eq_true, tests]
  cases found : (packets.flatMap (·.points)).find? test with
  | some point =>
    rw [find?_points] at found
    obtain ⟨packet, first, listed⟩ := Option.bind_eq_some_iff.mp found
    exact ⟨packet, (findsFirst_iff lists).mpr first, (findsFirst_iff tests).mpr listed⟩
  | none =>
    intro packet defined point listed right
    exact List.find?_eq_none.mp found point (List.mem_flatMap.mpr ⟨packet, defined, listed⟩)
      ((tests point).mpr right)

/-! ### Linking twice -/

namespace FieldType

/-- A type is kept as it is or made a bit field. -/
theorem narrowed_eq_or (type : FieldType) (start stop : Nat) :
    type.narrowed start stop = type ∨ (type.narrowed start stop).isBitField := by
  cases type
  case i12 | i1234 =>
    simp only [narrowed]
    split
    case isTrue => exact .inl rfl
    case isFalse => exact .inr rfl
  all_goals exact .inl rfl

theorem narrowed_of_isBitField {type : FieldType} (bitField : type.isBitField) (start stop : Nat) :
    type.narrowed start stop = type := by
  cases type
  case i12 | i1234 => cases bitField
  all_goals rfl

theorem narrowed_narrowed (type : FieldType) (start stop : Nat) :
    (type.narrowed start stop).narrowed start stop = type.narrowed start stop := by
  rcases type.narrowed_eq_or start stop with kept | bitField
  · rw [kept, kept]
  · exact narrowed_of_isBitField bitField start stop

end FieldType

namespace PointDefinition

variable {point : PointDefinition} {apid : Nat} {earlier conversions : ConversionTable}

theorem linked_linked :
    (point.linked apid earlier).linked apid conversions = point.linked apid conversions := by
  rw [linked, linkedName_linked, linked, linked, FieldType.narrowed_narrowed]

end PointDefinition

namespace PacketDefinition

variable {packet : PacketDefinition} {earlier conversions : ConversionTable}

/-- A packet that was linked before is linked as if it were not. -/
theorem linked_linked : (packet.linked earlier).linked conversions = packet.linked conversions := by
  simp only [linked, List.map_map, Function.comp_def, PointDefinition.linked_linked]

/-- Linking does not change for which points there is no conversion. -/
theorem unresolved_linked :
    ((packet.linked earlier).unresolved conversions).map (·.id) =
      (packet.unresolved conversions).map (·.id) := by
  simp only [unresolved, linked, List.filter_map, List.map_map, Function.comp_def,
    PointDefinition.linkedName_linked]
  rfl

end PacketDefinition

/-! ### Dictionaries -/

namespace Dictionary

/-- Every look-up finds the first of the definitions that match, or nothing if none does, and every
point has the APID of the packet that lists it. -/
structure LooksUpFirst (dictionary : Dictionary) : Prop where
  packet (apid : Nat) : FindsFirst (·.apid = apid) dictionary.packets (dictionary.packet? apid)
  packetsOf (apid : Nat) : (dictionary.packetsOf apid).head? = dictionary.packet? apid
  knowsApid (apid : Nat) :
    dictionary.knowsApid apid ↔ ∃ packet ∈ dictionary.packets, packet.apid = apid
  packetByName (name : String) :
    FindsFirst (fun packet => Text.lowercase packet.name = Text.lowercase name) dictionary.packets
      (dictionary.packetByName? name)
  packetById (id : String) :
    FindsFirst (fun packet => Text.lowercase packet.id = Text.lowercase id) dictionary.packets
      (dictionary.packetById? id)
  point (id : String) :
    FindsFirstPoint (fun point => Text.lowercase point.id = Text.lowercase id) dictionary.packets
      (dictionary.point? id)
  owner : ∀ packet ∈ dictionary.packets, ∀ point ∈ packet.points, point.apid = packet.apid

variable (packets : List PacketDefinition) (conversions : List Conversion)

theorem packet?_ofDefinitions (apid : Nat) :
    (ofDefinitions packets conversions).packet? apid =
      (ofDefinitions packets conversions).packets.find? (·.apid == apid) :=
  getElem?_firstByKey _ _ apid

theorem point?_ofDefinitions (id : String) :
    (ofDefinitions packets conversions).point? id =
      ((ofDefinitions packets conversions).packets.flatMap (·.points)).find?
        fun point => Text.lowercase point.id == Text.lowercase id :=
  getElem?_firstByKey _ _ (Text.lowercase id)

theorem apid_of_mem_packets : ∀ packet ∈ (ofDefinitions packets conversions).packets,
    ∀ point ∈ packet.points, point.apid = packet.apid := by
  intro packet defined point listed
  obtain ⟨given, -, rfl⟩ := List.mem_map.mp defined
  obtain ⟨wanted, -, rfl⟩ := List.mem_map.mp listed
  rfl

theorem looksUpFirst_ofDefinitions : (ofDefinitions packets conversions).LooksUpFirst where
  packet apid := by
    have look := packet?_ofDefinitions packets conversions apid
    exact (findsFirst_iff fun _ => beq_iff_eq).mpr look.symm
  packetsOf apid := by
    rw [packet?_ofDefinitions]
    exact List.head?_filter
  knowsApid apid := by
    have contained : (ofDefinitions packets conversions).knowsApid apid =
        ((ofDefinitions packets conversions).packet? apid).isSome :=
      Std.HashMap.contains_eq_isSome_getElem?
    rw [contained, packet?_ofDefinitions, List.find?_isSome]
    simp only [beq_iff_eq]
  packetByName name := by
    have look := getElem?_firstByKey (fun packet => Text.lowercase packet.name)
      (ofDefinitions packets conversions).packets (Text.lowercase name)
    exact (findsFirst_iff fun _ => beq_iff_eq).mpr look.symm
  packetById id := by
    have look := getElem?_firstByKey (fun packet => Text.lowercase packet.id)
      (ofDefinitions packets conversions).packets (Text.lowercase id)
    exact (findsFirst_iff fun _ => beq_iff_eq).mpr look.symm
  point id := by
    rw [point?_ofDefinitions]
    exact findsFirstPoint_find? (fun _ => beq_iff_eq) _
  owner := apid_of_mem_packets packets conversions

/-- It does not matter whether the packets were linked before. -/
theorem ofDefinitions_map_linked (earlier : ConversionTable) :
    ofDefinitions (packets.map (·.linked earlier)) conversions =
      ofDefinitions packets conversions := by
  let table := lastByKey Conversion.name (Conversion.builtins ++ conversions)
  have packetsAgain : (packets.map (·.linked earlier)).map (·.linked table) =
      packets.map (·.linked table) := by
    simp only [List.map_map, Function.comp_def, PacketDefinition.linked_linked]
  have unresolvedAgain :
      ((packets.map (·.linked earlier)).flatMap (·.unresolved table)).map (·.id) =
        (packets.flatMap (·.unresolved table)).map (·.id) := by
    simp only [List.flatMap_map, List.map_flatMap, PacketDefinition.unresolved_linked]
  simp only [ofDefinitions]
  rw [packetsAgain, unresolvedAgain]

/-- **A dictionary looks up the first definition of each key, and making it again of its own packets
changes nothing in it.** Tables of places would do as well. The packets are those that the
dictionary was made of, each with its points linked. -/
theorem ofDefinitions_lookups :
    (ofDefinitions packets conversions).LooksUpFirst ∧
      (PlaceTables.ofPackets (ofDefinitions packets conversions).packets).ServesFor
        (ofDefinitions packets conversions) ∧
      (ofDefinitions packets conversions).packets =
        packets.map (·.linked (ofDefinitions packets conversions).conversions) ∧
      ofDefinitions (ofDefinitions packets conversions).packets conversions =
        ofDefinitions packets conversions := by
  exact ⟨looksUpFirst_ofDefinitions packets conversions,
    PlaceTables.servesFor_ofDefinitions packets conversions, rfl,
    ofDefinitions_map_linked packets conversions _⟩

end Dictionary

end Downlink
