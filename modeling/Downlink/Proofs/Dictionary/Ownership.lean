/-
**The packet of a point.**

A point does not know the packet that lists it, only the APID of this packet. Several packets may
have one APID, and then the first of them is found for the points of them all:

* `Dictionary.packetOf?_of_listed`: what is found for a point, and that something is;
* `PlaceTables.packetsByApid_eq_some_iff`: at which place it is;
* `Dictionary.packetOf?_eq_some_iff_isFirstAt`: whether it is the packet that lists the point;
* `Dictionary.ofDefinitions_owners`: so the points of a dictionary find their own packets exactly
  if these are the first of their APIDs;
* `Dictionary.not_findsOwners_sharedApid`: a point that finds another packet.
-/

import Downlink.Proofs.Dictionary.Lookup
import Mathlib.Data.List.Nodup

namespace Downlink

/-- No packet before a place has the APID of the packet there. -/
def PacketDefinition.IsFirstAt (packet : PacketDefinition) (packets : List PacketDefinition)
    (place : Nat) : Prop :=
  ∀ earlier < place, ∀ other ∈ packets[earlier]?, other.apid ≠ packet.apid

/-- The place that is entered for the APID of a packet is that of the packet itself exactly if it is
the first one of the APID. -/
theorem PlaceTables.packetsByApid_eq_some_iff {packets : List PacketDefinition} {place : Nat}
    {packet : PacketDefinition} (defined : packets[place]? = some packet) :
    (ofPackets packets).packetsByApid[packet.apid]? = some place ↔
      packet.IsFirstAt packets place := by
  obtain ⟨inside, there⟩ := List.getElem?_eq_some_iff.mp defined
  have search : packets.findIdx? (·.apid == packet.apid) = _ := List.findIdx?_eq_fst_find?_zipIdx
  rw [ofPackets_eq, getElem?_enterPlaces, ← search, List.findIdx?_eq_some_iff_getElem]
  constructor
  · rintro ⟨_, -, first⟩ earlier before other listed
    obtain ⟨_, rfl⟩ := List.getElem?_eq_some_iff.mp listed
    exact fun same => first earlier before (beq_iff_eq.mpr same)
  · intro first
    refine ⟨inside, by rw [there]; exact BEq.rfl, fun earlier before same => ?_⟩
    exact first earlier before _ (List.getElem?_eq_getElem (Nat.lt_trans before inside))
      (beq_iff_eq.mp same)

namespace Dictionary

/-- A point is listed in the packet at a place, and no other packet has a point of its id. -/
structure ListsOnlyAt (dictionary : Dictionary) (place : Nat) (packet : PacketDefinition)
    (point : PointDefinition) : Prop where
  defined : dictionary.packets[place]? = some packet
  listed : point ∈ packet.points
  elsewhere : ∀ other, other ≠ place → ∀ stranger ∈ dictionary.packets[other]?,
    ∀ unlike ∈ stranger.points, unlike.id ≠ point.id

/-- Every point whose id is used in one packet only finds this packet. -/
def FindsOwners (dictionary : Dictionary) : Prop :=
  ∀ place packet point, dictionary.ListsOnlyAt place packet point →
    dictionary.packetOf? point = some packet

variable (packets : List PacketDefinition) (conversions : List Conversion) {place : Nat}
  {packet : PacketDefinition} {point : PointDefinition}

/-- What is found for a point is the first packet that has the APID of the one that lists it. -/
theorem packetOf?_of_listed (defined : packet ∈ (ofDefinitions packets conversions).packets)
    (listed : point ∈ packet.points) :
    ∃ found, (ofDefinitions packets conversions).packetOf? point = some found ∧
      FindsFirst (·.apid = packet.apid) (ofDefinitions packets conversions).packets
        (some found) := by
  have owner := apid_of_mem_packets packets conversions packet defined point listed
  have first := (looksUpFirst_ofDefinitions packets conversions).packet packet.apid
  rw [packetOf?, owner]
  cases found : (ofDefinitions packets conversions).packet? packet.apid with
  | some other =>
    rw [found] at first
    exact ⟨other, rfl, first⟩
  | none =>
    rw [found] at first
    exact absurd rfl (first packet defined)

/-- A point that no other packet lists finds its own packet exactly if no packet before it has the
same APID. -/
theorem packetOf?_eq_some_iff_isFirstAt
    (only : (ofDefinitions packets conversions).ListsOnlyAt place packet point) :
    (ofDefinitions packets conversions).packetOf? point = some packet ↔
      packet.IsFirstAt (ofDefinitions packets conversions).packets place := by
  obtain ⟨found, finds, first⟩ := packetOf?_of_listed packets conversions
    (List.mem_of_getElem? only.defined) only.listed
  rw [finds, Option.some.injEq]
  constructor
  · rintro rfl
    obtain ⟨there, defined, -, earliest⟩ := first
    -- The packet that is found lists the point, so it can only be the one at the place.
    have same : there = place := Decidable.byContradiction fun other =>
      only.elsewhere there other found defined point only.listed rfl
    rw [← same]
    exact earliest
  · intro earliest
    have itself : FindsFirst (·.apid = packet.apid) (ofDefinitions packets conversions).packets
        (some packet) := ⟨place, only.defined, rfl, earliest⟩
    exact Option.some.inj (first.unique itself)

/-- Where no two packets have one APID, every packet is the first one of its APID. -/
theorem packetOf?_of_nodup
    (distinct : ((ofDefinitions packets conversions).packets.map (·.apid)).Nodup)
    (defined : packet ∈ (ofDefinitions packets conversions).packets)
    (listed : point ∈ packet.points) :
    (ofDefinitions packets conversions).packetOf? point = some packet := by
  obtain ⟨found, finds, first⟩ := packetOf?_of_listed packets conversions defined listed
  rw [finds, List.inj_on_of_nodup_map distinct first.mem defined first.right]

/-- What is found for the points of a dictionary. -/
structure FindsFirstOwners (dictionary : Dictionary) : Prop where
  /-- There always is a packet, the first one that has the APID of the point's own packet. -/
  found : ∀ packet ∈ dictionary.packets, ∀ point ∈ packet.points,
    ∃ found, dictionary.packetOf? point = some found ∧
      FindsFirst (·.apid = packet.apid) dictionary.packets (some found)
  /-- Its place is that of the point's own packet exactly if none before has the same APID. -/
  place (place : Nat) (packet : PacketDefinition) : dictionary.packets[place]? = some packet →
    ∀ point ∈ packet.points,
      ((PlaceTables.ofPackets dictionary.packets).packetsByApid[point.apid]? = some place ↔
        packet.IsFirstAt dictionary.packets place)
  /-- So it is with the packet itself, where no other one has a point of the same id. -/
  own (place : Nat) (packet : PacketDefinition) (point : PointDefinition) :
    dictionary.ListsOnlyAt place packet point →
      (dictionary.packetOf? point = some packet ↔ packet.IsFirstAt dictionary.packets place)
  /-- Where no two packets have one APID, all points find their own packets. -/
  distinct : (dictionary.packets.map (·.apid)).Nodup →
    ∀ packet ∈ dictionary.packets, ∀ point ∈ packet.points,
      dictionary.packetOf? point = some packet

/-- **A point finds the first packet that has the APID of its own.** It is the one that lists the
point exactly if no packet before this one has the same APID; so all points find their own packets
where no two packets have one APID. -/
theorem ofDefinitions_owners : (ofDefinitions packets conversions).FindsFirstOwners where
  found _ defined _ listed := packetOf?_of_listed packets conversions defined listed
  place place packet defined point listed := by
    rw [apid_of_mem_packets packets conversions packet (List.mem_of_getElem? defined) point listed]
    exact PlaceTables.packetsByApid_eq_some_iff defined
  own _ _ _ only := packetOf?_eq_some_iff_isFirstAt packets conversions only
  distinct distinct _ defined _ listed :=
    packetOf?_of_nodup packets conversions distinct defined listed

/-- Two packets of one APID, each with a point of its own id. -/
def sharedApidPackets : List PacketDefinition :=
  [{ apid := 100, id := "HK", name := "Housekeeping",
     points := [{ id := "HK.MODE", name := "MODE", fieldType := .u1 }] },
    { apid := 100, id := "SCI", name := "Science",
      points := [{ id := "SCI.RATE", name := "RATE", fieldType := .u1 }] }]

/-- The dictionary of the two packets. -/
def sharedApid : Dictionary :=
  ofDefinitions sharedApidPackets []

theorem id_of_sharedApid {place : Nat} {packet : PacketDefinition} {point : PointDefinition}
    (defined : packet ∈ sharedApid.packets[place]?) (listed : point ∈ packet.points) :
    place = 0 ∧ point.id = "HK.MODE" ∨ place = 1 ∧ point.id = "SCI.RATE" := by
  match place with
  | 0 =>
    obtain rfl := Option.some.inj defined
    obtain rfl := List.mem_singleton.mp listed
    exact .inl ⟨rfl, rfl⟩
  | 1 =>
    obtain rfl := Option.some.inj defined
    obtain rfl := List.mem_singleton.mp listed
    exact .inr ⟨rfl, rfl⟩
  | _ + 2 => cases defined

theorem listsOnlyAt_sharedApid {place : Nat} {packet : PacketDefinition} {point : PointDefinition}
    (defined : sharedApid.packets[place]? = some packet) (listed : point ∈ packet.points) :
    sharedApid.ListsOnlyAt place packet point := by
  refine ⟨defined, listed, fun other apart stranger there unlike member same => ?_⟩
  rcases id_of_sharedApid there member with ⟨rfl, here⟩ | ⟨rfl, here⟩ <;>
    rcases id_of_sharedApid defined listed with ⟨rfl, own⟩ | ⟨rfl, own⟩
  case inl.inl | inr.inr => exact apart rfl
  case inl.inr | inr.inl =>
    rw [here, own] at same
    exact absurd same (by decide)

/-- The point of the first of the two packets finds its own packet, and that of the second one does
not. -/
theorem ofDefinitions_owners_sharedApid :
    ∃ first second, sharedApid.packets = [first, second] ∧
      (∀ point ∈ first.points, sharedApid.packetOf? point = some first) ∧
      ∀ point ∈ second.points, sharedApid.packetOf? point ≠ some second := by
  have owners : sharedApid.FindsFirstOwners := ofDefinitions_owners sharedApidPackets []
  refine ⟨_, _, rfl, fun point listed => ?_, fun point listed found => ?_⟩
  · exact (owners.own 0 _ point (listsOnlyAt_sharedApid rfl listed)).mpr
      fun _ none => absurd none (Nat.not_lt_zero _)
  · have first := (owners.own 1 _ point (listsOnlyAt_sharedApid rfl listed)).mp found
    exact first 0 Nat.zero_lt_one _ rfl rfl

/-- **The point of the second of two packets with one APID does not find its own packet**, though no
other packet has a point of its id. It finds the first one. -/
theorem not_findsOwners_sharedApid :
    ¬ sharedApid.FindsOwners ∧
      ∃ first second point, sharedApid.packets = [first, second] ∧ first.id ≠ second.id ∧
        sharedApid.ListsOnlyAt 1 second point ∧ sharedApid.packetOf? point = some first := by
  obtain ⟨first, second, packets, differ, same, point, listed⟩ :
      ∃ first second, sharedApid.packets = [first, second] ∧ first.id ≠ second.id ∧
        first.apid = second.apid ∧ ∃ point, point ∈ second.points :=
    ⟨_, _, rfl, show "HK" ≠ "SCI" by decide, rfl, _, List.mem_singleton_self _⟩
  have defined : sharedApid.packets[1]? = some second := by rw [packets]; rfl
  have found : sharedApid.packetOf? point = some first := by
    obtain ⟨other, finds, earliest⟩ := packetOf?_of_listed sharedApidPackets []
      (List.mem_of_getElem? defined) listed
    have before : FindsFirst (·.apid = second.apid) sharedApid.packets (some first) :=
      ⟨0, by rw [packets]; rfl, same, fun _ none => absurd none (Nat.not_lt_zero _)⟩
    exact finds.trans (earliest.unique before)
  have only := listsOnlyAt_sharedApid defined listed
  refine ⟨fun finds => ?_, first, second, point, packets, differ, only, found⟩
  have own := finds 1 second point only
  rw [found] at own
  exact differ (congrArg PacketDefinition.id (Option.some.inj own))

end Dictionary

end Downlink
