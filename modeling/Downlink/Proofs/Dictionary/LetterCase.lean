/-
**Letter case in the two look-ups of a point.**

A point is looked up by its id in the whole dictionary or in the packet of an APID. The former
compares ids in lower case, with all letters that have one, and the latter regards ASCII letters
only. In a dictionary in which no two packets have one APID and no two points have one id in lower
case, the look-up in a packet finds no other point than the one in the dictionary, but it misses one
whose id differs in the case of any other letter.

* `Dictionary.pointIn?_eq_some_iff`: what is found in a packet, in terms of what is found in the
  dictionary;
* `Dictionary.lookUpsAgree_iff_sameAsciiLetters`: for which ids the two agree;
* `Dictionary.lookUpsAgree_iff`: both together, and that the two agree where all ids are ASCII;
* `Dictionary.not_lookUpsAgree_accented`: an id for which they do not.
-/

import Downlink.Proofs.Dictionary.Lookup
import Downlink.Proofs.Text.Lowercase
import Mathlib.Data.List.Nodup

namespace Downlink.Dictionary

/-- An id finds a point in the dictionary exactly if it finds it in the packet that lists the point,
and then it finds none in the packets of other APIDs. -/
def LookUpsAgree (dictionary : Dictionary) (id : String) : Prop :=
  ∀ packet ∈ dictionary.packets, ∀ point ∈ packet.points,
    (dictionary.point? id = some point ↔ dictionary.pointIn? packet.apid id = some point) ∧
      (dictionary.point? id = some point →
        ∀ apid, apid ≠ packet.apid → dictionary.pointIn? apid id = none)

/-- No two packets have one APID, and no two points have one id in lower case. -/
structure HasDistinctKeys (dictionary : Dictionary) : Prop where
  apids : (dictionary.packets.map (·.apid)).Nodup
  ids : ((dictionary.packets.flatMap (·.points)).map fun point => Text.lowercase point.id).Nodup

section Distinct

variable {dictionary : Dictionary} {packets : List PacketDefinition}
  {conversions : List Conversion} {id : String}

/-- A point that the dictionary finds is listed in one of its packets. -/
theorem exists_packet_of_point? (made : ofDefinitions packets conversions = dictionary)
    {point : PointDefinition} (found : dictionary.point? id = some point) :
    ∃ packet ∈ dictionary.packets, point ∈ packet.points ∧
      Text.lowercase point.id = Text.lowercase id := by
  have looksUp := looksUpFirst_ofDefinitions packets conversions
  rw [made] at looksUp
  have first := looksUp.point id
  rw [found] at first
  obtain ⟨packet, defining, listed⟩ := first
  exact ⟨packet, defining.mem, listed.mem, listed.right⟩

/-- A point of the dictionary is the only one that its id finds. -/
theorem point?_eq_some (made : ofDefinitions packets conversions = dictionary)
    (distinct : dictionary.HasDistinctKeys) {packet : PacketDefinition}
    (defined : packet ∈ dictionary.packets) {point : PointDefinition}
    (listed : point ∈ packet.points) (same : Text.lowercase point.id = Text.lowercase id) :
    dictionary.point? id = some point := by
  subst made
  rw [point?_ofDefinitions]
  have member := List.mem_flatMap.mpr ⟨packet, defined, listed⟩
  refine find?_eq_some_of_unique member (beq_iff_eq.mpr same) fun other otherMember matching => ?_
  exact List.inj_on_of_nodup_map distinct.ids otherMember member
    ((beq_iff_eq.mp matching).trans same.symm)

/-- A packet of the dictionary is the only one of its APID. -/
theorem packet?_eq_some (made : ofDefinitions packets conversions = dictionary)
    (distinct : dictionary.HasDistinctKeys) {packet : PacketDefinition}
    (defined : packet ∈ dictionary.packets) : dictionary.packet? packet.apid = some packet := by
  subst made
  rw [packet?_ofDefinitions]
  refine find?_eq_some_of_unique defined (beq_self_eq_true _) fun other otherMember matching => ?_
  exact List.inj_on_of_nodup_map distinct.apids otherMember defined (beq_iff_eq.mp matching)

/-- The look-up in a packet finds what the one in the dictionary finds, if it is listed in the
packet and its id differs at most in the case of ASCII letters. -/
theorem pointIn?_eq_some_iff (made : ofDefinitions packets conversions = dictionary)
    (distinct : dictionary.HasDistinctKeys) {apid : Nat} {point : PointDefinition} :
    dictionary.pointIn? apid id = some point ↔
      dictionary.point? id = some point ∧ point.apid = apid ∧
        Text.sameAsciiLetters point.id id := by
  have looksUp := looksUpFirst_ofDefinitions packets conversions
  rw [made] at looksUp
  constructor
  · intro found
    obtain ⟨packet, ofApid, search⟩ := Option.bind_eq_some_iff.mp found
    have first := looksUp.packet apid
    rw [ofApid] at first
    have listed := List.mem_of_find?_eq_some search
    have same := List.find?_some search
    exact ⟨point?_eq_some made distinct first.mem listed (Text.lowercase_of_sameAsciiLetters same),
      (looksUp.owner packet first.mem point listed).trans first.right, same⟩
  · rintro ⟨found, rfl, same⟩
    obtain ⟨packet, defined, listed, -⟩ := exists_packet_of_point? made found
    rw [pointIn?, looksUp.owner packet defined point listed,
      packet?_eq_some made distinct defined]
    refine find?_eq_some_of_unique listed same fun other otherListed matching => ?_
    -- Another point that the search stops at would be found in the dictionary, too.
    have also := point?_eq_some made distinct defined otherListed
      (Text.lowercase_of_sameAsciiLetters matching)
    exact Option.some.inj (also.symm.trans found)

/-- The look-ups agree for an id that differs at most in the case of ASCII letters from the one it
finds. -/
theorem lookUpsAgree_iff_sameAsciiLetters (made : ofDefinitions packets conversions = dictionary)
    (distinct : dictionary.HasDistinctKeys) :
    dictionary.LookUpsAgree id ↔
      ∀ point, dictionary.point? id = some point → Text.sameAsciiLetters point.id id := by
  have owner := apid_of_mem_packets packets conversions
  rw [made] at owner
  constructor
  · intro agree point found
    obtain ⟨packet, defined, listed, -⟩ := exists_packet_of_point? made found
    have there := (agree packet defined point listed).1.mp found
    exact ((pointIn?_eq_some_iff made distinct).mp there).2.2
  · intro letters packet defined point listed
    have ofPacket := owner packet defined point listed
    refine ⟨⟨fun found => ?_, fun there => ?_⟩, fun found apid other => ?_⟩
    · exact (pointIn?_eq_some_iff made distinct).mpr ⟨found, ofPacket, letters point found⟩
    · exact ((pointIn?_eq_some_iff made distinct).mp there).1
    · rw [Option.eq_none_iff_forall_ne_some]
      intro stranger elsewhere
      obtain ⟨alsoFound, ofApid, -⟩ := (pointIn?_eq_some_iff made distinct).mp elsewhere
      obtain rfl := Option.some.inj (found.symm.trans alsoFound)
      exact other (ofApid.symm.trans ofPacket)

/-- **The look-up in a packet agrees with the one in the dictionary exactly for the ids that differ
from the one they find at most in the case of ASCII letters.** So it does for ASCII ids where the
points have ASCII ids, too. -/
theorem lookUpsAgree_iff (made : ofDefinitions packets conversions = dictionary)
    (distinct : dictionary.HasDistinctKeys) (id : String) :
    (∀ apid point, dictionary.pointIn? apid id = some point ↔
        dictionary.point? id = some point ∧ point.apid = apid ∧
          Text.sameAsciiLetters point.id id) ∧
      (dictionary.LookUpsAgree id ↔
        ∀ point, dictionary.point? id = some point → Text.sameAsciiLetters point.id id) ∧
      ((∀ char ∈ id.toList, char.toNat < 0x80) →
        (∀ packet ∈ dictionary.packets, ∀ point ∈ packet.points,
          ∀ char ∈ point.id.toList, char.toNat < 0x80) →
        dictionary.LookUpsAgree id) := by
  have agrees : dictionary.LookUpsAgree id ↔ _ := lookUpsAgree_iff_sameAsciiLetters made distinct
  refine ⟨fun apid point => pointIn?_eq_some_iff made distinct, agrees, fun ascii asciiIds => ?_⟩
  refine agrees.mpr fun point found => ?_
  obtain ⟨packet, defined, listed, same⟩ := exists_packet_of_point? made found
  exact (Text.sameAsciiLetters_iff_of_ascii (asciiIds packet defined point listed) ascii).mpr same

end Distinct

/-- A packet with one point, whose id has a letter beyond ASCII. -/
def accentedPacket : PacketDefinition :=
  { apid := 100, id := "HK", name := "HK",
    points := [{ id := "HK.É", name := "E", fieldType := .u1 }] }

/-- The dictionary of this packet. -/
def accented : Dictionary :=
  ofDefinitions [accentedPacket] []

theorem accented_hasDistinctKeys : accented.HasDistinctKeys :=
  ⟨List.nodup_singleton 100, List.nodup_singleton (Text.lowercase "HK.É")⟩

theorem id_of_accented {id : String} {point : PointDefinition}
    (found : accented.point? id = some point) : point.id = "HK.É" := by
  rw [accented, point?_ofDefinitions] at found
  obtain rfl := List.mem_singleton.mp (List.mem_of_find?_eq_some found)
  rfl

/-- The two look-ups agree where only the case of ASCII letters differs. -/
theorem lookUpsAgree_accented :
    ofDefinitions [accentedPacket] [] = accented ∧ accented.HasDistinctKeys ∧
      accented.LookUpsAgree "hk.É" := by
  have made : ofDefinitions [accentedPacket] [] = accented := rfl
  obtain ⟨-, agrees, -⟩ := lookUpsAgree_iff made accented_hasDistinctKeys "hk.É"
  refine ⟨made, accented_hasDistinctKeys, agrees.mpr fun point found => ?_⟩
  rw [id_of_accented found]
  decide

/-- **The two look-ups do not agree where the case of another letter differs**: the point is found
in the dictionary and not in its packet. -/
theorem not_lookUpsAgree_accented :
    accented.HasDistinctKeys ∧ (accented.point? "hk.é").isSome ∧
      accented.pointIn? 100 "hk.é" = none ∧ ¬ accented.LookUpsAgree "hk.é" := by
  have made : ofDefinitions [accentedPacket] [] = accented := rfl
  have foundThere : (accented.point? "hk.é").isSome := by
    rw [accented, point?_ofDefinitions, List.find?_isSome]
    exact ⟨_, List.mem_singleton_self _, by decide⟩
  have missed : ∀ apid, accented.pointIn? apid "hk.é" = none := by
    intro apid
    rw [Option.eq_none_iff_forall_ne_some]
    intro point found
    obtain ⟨foundPoint, -, letters⟩ :=
      (pointIn?_eq_some_iff made accented_hasDistinctKeys).mp found
    rw [id_of_accented foundPoint] at letters
    exact absurd letters (by decide)
  refine ⟨accented_hasDistinctKeys, foundThere, missed 100, fun agree => ?_⟩
  obtain ⟨point, found⟩ := Option.isSome_iff_exists.mp foundThere
  obtain ⟨packet, defined, listed, -⟩ := exists_packet_of_point? made found
  have inPacket := (agree packet defined point listed).1.mp found
  rw [missed] at inPacket
  cases inPacket

end Downlink.Dictionary
