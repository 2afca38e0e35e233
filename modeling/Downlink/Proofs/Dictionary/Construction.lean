/-
**How a dictionary is made.**

A dictionary can be made in two walks through its definitions. The first one links the points one
after another, and notes the ids of those for which there is no conversion on its way. The second
one enters all packets and points in tables, in which the first definition of each key counts; the
tables have places of definitions instead of definitions, for a point the place of its packet and
its own place in there, so that a look-up takes a definition from a place, where one has to be.

* `run_mapM_noting`: a walk that notes something on its way;
* `Dictionary.run_linkNoting`: the first walk makes the packets of the dictionary and its report;
* `PlaceTables.ofPackets_eq`: the second walk makes each table as a walk of its own would;
* `mapM_enterPlaces`: what is found by its place is the first item of the key;
* `PlaceTables.servesFor_ofDefinitions`: the look-ups by places find a definition at every place,
  and it is the one that the dictionary finds.
-/

import Downlink.Proofs.Checks
import Downlink.Proofs.Dictionary.Linking

namespace Downlink

/-! ### Linking point after point -/

/-- A walk whose steps add notes to those taken before adds all of them, in order. -/
theorem run_mapM_noting {Item Result Note : Type} {step : Item → StateM (List Note) Result}
    {result : Item → Result} {notes : Item → List Note}
    (steps : ∀ item noted, (step item).run noted = (result item, noted ++ notes item))
    (items : List Item) (noted : List Note) :
    (items.mapM step).run noted = (items.map result, noted ++ items.flatMap notes) := by
  induction items generalizing noted with
  | nil =>
    rw [List.flatMap_nil, List.append_nil]
    rfl
  | cons item items ih =>
    rw [List.mapM_cons, StateT.run_bind, steps]
    show (do
      let rest ← (items.mapM step).run (noted ++ notes item)
      pure (result item :: rest.1, rest.2)) = _
    rw [ih, List.append_assoc]
    rfl

namespace PointDefinition

/-- Links the point, and notes its id if there is no conversion for it. -/
def linkNoting (point : PointDefinition) (apid : Nat) (conversions : ConversionTable) :
    StateM (List String) PointDefinition := do
  let typed := { point with
    apid, fieldType := point.fieldType.narrowed point.bitStart point.bitStop }
  match conversions[typed.linkedName]? with
  | some conversion => return { typed with conversion }
  | none =>
    modify (· ++ [typed.id])
    return { typed with conversion := .identity }

variable (point : PointDefinition) (apid : Nat) (conversions : ConversionTable)

/-- The name by which a point is linked does not change when it is linked. -/
theorem linkedName_linked : (point.linked apid conversions).linkedName = point.linkedName := by
  rw [linkedName_eq, linkedName_eq, linked, FieldType.timeConversion?_narrowed]

theorem run_linkNoting (noted : List String) :
    (point.linkNoting apid conversions).run noted =
      (point.linked apid conversions,
        noted ++ ([point].filter (conversions[·.linkedName]?.isNone)).map (·.id)) := by
  have same : PointDefinition.linkedName { point with
      apid, fieldType := point.fieldType.narrowed point.bitStart point.bitStop } =
      point.linkedName := point.linkedName_linked apid conversions
  rw [linkNoting, same, linked]
  cases found : conversions[point.linkedName]? with
  | some conversion =>
    have resolved : [point].filter (conversions[·.linkedName]?.isNone) = [] := by simp [found]
    rw [resolved, List.map_nil, List.append_nil]
    rfl
  | none =>
    have missing : [point].filter (conversions[·.linkedName]?.isNone) = [point] := by simp [found]
    rw [missing]
    rfl

end PointDefinition

namespace PacketDefinition

/-- Links all points of the packet, and notes the ids of those for which there is no conversion. -/
def linkNoting (packet : PacketDefinition) (conversions : ConversionTable) :
    StateM (List String) PacketDefinition := do
  let points ← packet.points.mapM (·.linkNoting packet.apid conversions)
  return { packet with points }

theorem run_linkNoting (packet : PacketDefinition) (conversions : ConversionTable)
    (noted : List String) :
    (packet.linkNoting conversions).run noted =
      (packet.linked conversions, noted ++ (packet.unresolved conversions).map (·.id)) := by
  have walk := run_mapM_noting
    (fun point noted => PointDefinition.run_linkNoting point packet.apid conversions noted)
    packet.points noted
  rw [← List.map_flatMap, ← List.filter_flatMap, List.flatMap_singleton'] at walk
  rw [linkNoting, StateT.run_bind, walk]
  rfl

end PacketDefinition

namespace Dictionary

/-- Links packet after packet, and notes the ids of the points for which there is no conversion. -/
def linkNoting (packets : List PacketDefinition) (conversions : List Conversion) :
    StateM (List String) (List PacketDefinition) :=
  packets.mapM (·.linkNoting (lastByKey Conversion.name (Conversion.builtins ++ conversions)))

/-- The walk makes the packets of the dictionary and notes what it reports. -/
theorem run_linkNoting (packets : List PacketDefinition) (conversions : List Conversion) :
    (linkNoting packets conversions).run [] =
      ((ofDefinitions packets conversions).packets,
        (ofDefinitions packets conversions).unresolved) := by
  have walk := run_mapM_noting
    (fun packet noted => PacketDefinition.run_linkNoting packet
      (lastByKey Conversion.name (Conversion.builtins ++ conversions)) noted) packets []
  rw [List.nil_append, ← List.map_flatMap] at walk
  exact walk

end Dictionary

/-! ### Places by keys -/

section Places

variable {Key Item Place : Type} [BEq Key] [Hashable Key]

/-- Enters places of items under their keys, unless the table has the key already. -/
def enterPlaces (key : Item → Key) (table : Std.HashMap Key Place) (entries : List (Item × Place)) :
    Std.HashMap Key Place :=
  entries.foldl (fun table entry => table.insertIfNew (key entry.1) entry.2) table

variable [LawfulBEq Key] [LawfulHashable Key] (key : Item → Key) (wanted : Key)

/-- The place of a key is that of the first item of the key. -/
theorem getElem?_enterPlaces (entries : List (Item × Place)) :
    (enterPlaces key ∅ entries)[wanted]? =
      (entries.find? fun entry => key entry.1 == wanted).map (·.2) := by
  have search := getElem?_foldl_insertIfNew (fun entry : Item × Place => key entry.1) (·.2) entries
    ∅ wanted
  rw [Std.HashMap.getElem?_empty, Option.none_or] at search
  exact search

/-- Where every item is found at its place, a look-up of places finds the first item of the key. -/
theorem mapM_enterPlaces {entries : List (Item × Place)} {fetch : Place → Except Breach Item}
    (located : ∀ entry ∈ entries, fetch entry.2 = .ok entry.1) :
    (enterPlaces key ∅ entries)[wanted]?.mapM fetch =
      .ok ((entries.map (·.1)).find? (key · == wanted)) := by
  have search : (entries.map (·.1)).find? (key · == wanted) =
      (entries.find? fun entry => key entry.1 == wanted).map (·.1) := List.find?_map
  rw [getElem?_enterPlaces, search]
  cases found : entries.find? fun entry => key entry.1 == wanted with
  | none => rfl
  | some entry =>
    have fetched := located entry (List.mem_of_find?_eq_some found)
    show (do let item ← fetch entry.2; pure (some item)) = _
    rw [fetched]
    rfl

/-- A key has a place exactly if it has an item. -/
theorem contains_enterPlaces (entries : List (Item × Place)) :
    (enterPlaces key ∅ entries).contains wanted =
      (firstByKey key (entries.map (·.1))).contains wanted := by
  rw [Std.HashMap.contains_eq_isSome_getElem?, Std.HashMap.contains_eq_isSome_getElem?,
    getElem?_enterPlaces, getElem?_firstByKey, List.find?_map, Option.isSome_map,
    Option.isSome_map]
  rfl

end Places

/-! ### The tables of a dictionary -/

/-- Places of packets by APIDs, names and ids, and of points by ids. -/
structure PlaceTables where
  packetsByApid : Std.HashMap Nat Nat := ∅
  packetsByName : Std.HashMap String Nat := ∅
  packetsById : Std.HashMap String Nat := ∅
  pointsById : Std.HashMap String (Nat × Nat) := ∅

namespace PlaceTables

/-- Enters a point. -/
def withPoint (tables : PlaceTables) (point : PointDefinition) (place : Nat × Nat) : PlaceTables :=
  { tables with pointsById := tables.pointsById.insertIfNew (Text.lowercase point.id) place }

/-- The points of a packet with their places. -/
def pointPlaces (packet : PacketDefinition) (place : Nat) : List (PointDefinition × Nat × Nat) :=
  packet.points.zipIdx.map fun entry => (entry.1, place, entry.2)

/-- Enters a packet and its points. -/
def withPacket (tables : PlaceTables) (packet : PacketDefinition) (place : Nat) : PlaceTables :=
  let named := { tables with
    packetsByApid := tables.packetsByApid.insertIfNew packet.apid place
    packetsByName := tables.packetsByName.insertIfNew (Text.lowercase packet.name) place
    packetsById := tables.packetsById.insertIfNew (Text.lowercase packet.id) place }
  (pointPlaces packet place).foldl (fun tables entry => tables.withPoint entry.1 entry.2) named

/-- The tables of some packets. -/
def ofPackets (packets : List PacketDefinition) : PlaceTables :=
  packets.zipIdx.foldl (fun tables entry => tables.withPacket entry.1 entry.2) {}

/-- Points are entered in their table only. -/
theorem foldl_withPoint (entries : List (PointDefinition × Nat × Nat)) (tables : PlaceTables) :
    entries.foldl (fun tables entry => tables.withPoint entry.1 entry.2) tables =
      { tables with
        pointsById := enterPlaces (fun point => Text.lowercase point.id) tables.pointsById
          entries } := by
  induction entries generalizing tables with
  | nil => rfl
  | cons entry entries ih => exact ih (tables.withPoint entry.1 entry.2)

theorem foldl_withPacket (entries : List (PacketDefinition × Nat)) (tables : PlaceTables) :
    entries.foldl (fun tables entry => tables.withPacket entry.1 entry.2) tables =
      { packetsByApid := enterPlaces (·.apid) tables.packetsByApid entries
        packetsByName :=
          enterPlaces (fun packet => Text.lowercase packet.name) tables.packetsByName entries
        packetsById :=
          enterPlaces (fun packet => Text.lowercase packet.id) tables.packetsById entries
        pointsById := enterPlaces (fun point => Text.lowercase point.id) tables.pointsById
          (entries.flatMap fun entry => pointPlaces entry.1 entry.2) } := by
  induction entries generalizing tables with
  | nil => rfl
  | cons entry entries ih =>
    rw [List.foldl_cons, ih, withPacket, foldl_withPoint, List.flatMap_cons]
    simp only [enterPlaces, List.foldl_cons, List.foldl_append]

/-- One walk through the packets makes each of the tables as a walk of its own would. -/
theorem ofPackets_eq (packets : List PacketDefinition) :
    ofPackets packets =
      { packetsByApid := enterPlaces (·.apid) ∅ packets.zipIdx
        packetsByName := enterPlaces (fun packet => Text.lowercase packet.name) ∅ packets.zipIdx
        packetsById := enterPlaces (fun packet => Text.lowercase packet.id) ∅ packets.zipIdx
        pointsById := enterPlaces (fun point => Text.lowercase point.id) ∅
          (packets.zipIdx.flatMap fun entry => pointPlaces entry.1 entry.2) } :=
  foldl_withPacket packets.zipIdx {}

/-! ### Look-ups by places -/

/-- The packet at a place, where one has to be. -/
def packetAt (packets : List PacketDefinition) (place : Nat) : Except Breach PacketDefinition :=
  Breach.outOfBounds.ensureSome packets[place]?

/-- The point at a place, where one has to be. -/
def pointAt (packets : List PacketDefinition) (place : Nat × Nat) :
    Except Breach PointDefinition := do
  let packet ← packetAt packets place.1
  Breach.outOfBounds.ensureSome packet.points[place.2]?

variable {packets : List PacketDefinition}

theorem packetAt_of_mem {entry : PacketDefinition × Nat} (member : entry ∈ packets.zipIdx) :
    packetAt packets entry.2 = .ok entry.1 := by
  rw [packetAt, List.mem_zipIdx_iff_getElem?.mp member]
  rfl

theorem pointAt_of_mem {entry : PointDefinition × Nat × Nat}
    (member : entry ∈ packets.zipIdx.flatMap fun entry => pointPlaces entry.1 entry.2) :
    pointAt packets entry.2 = .ok entry.1 := by
  obtain ⟨⟨packet, place⟩, defined, listing⟩ := List.mem_flatMap.mp member
  obtain ⟨⟨point, index⟩, listed, rfl⟩ := List.mem_map.mp listing
  have there : packetAt packets place = .ok packet := packetAt_of_mem defined
  have inside : packet.points[index]? = some point := List.mem_zipIdx_iff_getElem?.mp listed
  rw [pointAt, bind_of_ok there, inside]
  rfl

/-- The points that have places are all points, in the order of the definitions. -/
theorem map_fst_pointPlaces (packets : List PacketDefinition) :
    (packets.zipIdx.flatMap fun entry => pointPlaces entry.1 entry.2).map (·.1) =
      packets.flatMap (·.points) := by
  have ofPacket : ∀ entry : PacketDefinition × Nat,
      (pointPlaces entry.1 entry.2).map (·.1) = entry.1.points := by
    intro entry
    rw [pointPlaces, List.map_map]
    exact List.zipIdx_map_fst 0 entry.1.points
  calc (packets.zipIdx.flatMap fun entry => pointPlaces entry.1 entry.2).map (·.1)
      = packets.zipIdx.flatMap (·.1.points) := by simp only [List.map_flatMap, ofPacket]
    _ = (packets.zipIdx.map (·.1)).flatMap (·.points) := by rw [List.flatMap_map]
    _ = packets.flatMap (·.points) := by rw [List.zipIdx_map_fst]

/-- The look-ups by places find a definition at every place, and it is the one that the dictionary
finds. -/
structure ServesFor (tables : PlaceTables) (dictionary : Dictionary) : Prop where
  packet (apid : Nat) :
    tables.packetsByApid[apid]?.mapM (packetAt dictionary.packets) = .ok (dictionary.packet? apid)
  knowsApid (apid : Nat) : tables.packetsByApid.contains apid = dictionary.knowsApid apid
  packetByName (name : String) :
    tables.packetsByName[Text.lowercase name]?.mapM (packetAt dictionary.packets) =
      .ok (dictionary.packetByName? name)
  packetById (id : String) :
    tables.packetsById[Text.lowercase id]?.mapM (packetAt dictionary.packets) =
      .ok (dictionary.packetById? id)
  point (id : String) :
    tables.pointsById[Text.lowercase id]?.mapM (pointAt dictionary.packets) =
      .ok (dictionary.point? id)

/-- The tables of a dictionary's packets can take the place of its own. -/
theorem servesFor_ofDefinitions (packets : List PacketDefinition) (conversions : List Conversion) :
    (ofPackets (Dictionary.ofDefinitions packets conversions).packets).ServesFor
      (Dictionary.ofDefinitions packets conversions) := by
  let defined := (Dictionary.ofDefinitions packets conversions).packets
  have packetPlaces : ∀ {Key : Type} [BEq Key] [Hashable Key] [LawfulBEq Key] [LawfulHashable Key]
      (key : PacketDefinition → Key) (wanted : Key),
      (enterPlaces key ∅ defined.zipIdx)[wanted]?.mapM (packetAt defined) =
        .ok ((firstByKey key defined)[wanted]?) := by
    intro Key _ _ _ _ key wanted
    rw [mapM_enterPlaces key wanted fun _ => packetAt_of_mem, List.zipIdx_map_fst,
      getElem?_firstByKey]
  rw [ofPackets_eq]
  constructor
  case packet => exact packetPlaces (·.apid)
  case knowsApid =>
    intro apid
    have known := contains_enterPlaces PacketDefinition.apid apid defined.zipIdx
    rw [List.zipIdx_map_fst] at known
    exact known
  case packetByName =>
    exact fun name => packetPlaces (fun packet => Text.lowercase packet.name) (Text.lowercase name)
  case packetById =>
    exact fun id => packetPlaces (fun packet => Text.lowercase packet.id) (Text.lowercase id)
  case point =>
    intro id
    have search := mapM_enterPlaces (fun point => Text.lowercase point.id) (Text.lowercase id)
      fun entry (member : entry ∈ defined.zipIdx.flatMap _) => pointAt_of_mem member
    rw [map_fst_pointPlaces] at search
    exact search.trans (congrArg Except.ok (getElem?_firstByKey _ _ _).symm)

end PlaceTables

end Downlink
