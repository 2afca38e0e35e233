/-
**Dictionaries that are written and read again.**

A dictionary is written with its packets and without the conversions that it was given. The names of
these stay with the points, but when the dictionary is read again they mean the conversions that
every dictionary has of itself, and a name that none of them has means the identity. All the rest is
as it was, and a point comes to the same raw values.

* `PointDefinition.ofValue?_toValue`, `PacketDefinition.ofValue?_toValue_linked`: definitions whose
  numbers fit their fields are read as they were written, but for the conversions of the points;
* `Dictionary.ofValue?_toValue`: a dictionary is read as one of its packets and no conversions;
* `PacketDefinition.decodesAs_linked_iff`: whether the points of a packet have the same values with
  other conversions;
* `Dictionary.decodesAs_reread_iff`: so nothing is lost exactly when every conversion that was given
  under a name of a point makes the same of its raw values as the one that is there without it;
* `Dictionary.not_decodesAs_reread`: a dictionary that has other values when it is read again.
-/

import Downlink.Proofs.Dictionary.Decoding
import Downlink.Proofs.Dictionary.Lookup
import Downlink.Record.Dictionary
import Mathlib.Data.List.Forall2

namespace Downlink

open Record (Reader Row Value)

/-! ### Definitions as records -/

namespace Record.Value

/-- A natural number is read as it was written if it has no more bits than are read. -/
theorem unsigned?_ofNat {bits number : Nat} (fits : number < 1 <<< bits) :
    (ofNat number).unsigned? bits = some number :=
  if_pos fits

/-- A list is read item by item. -/
theorem list?_map {Item Result : Type} {encode : Item → Value} {read : Reader Result}
    {result : Item → Result} {items : List Item}
    (each : ∀ item ∈ items, read (encode item) = some (result item)) :
    list? read (.list (items.map encode)) = some (items.map result) := by
  show (items.map encode).mapM read = some (items.map result)
  induction items with
  | nil => rfl
  | cons item items ih =>
    obtain ⟨here, others⟩ := List.forall_mem_cons.mp each
    rw [List.map_cons, List.mapM_cons, here, ih others]
    rfl

end Record.Value

namespace Record.Row

variable {Result : Type} (entries : List (String × Value)) (place : Nat) (name : String)
  (read : Reader Result)

/-- A field that has to be there is found by its name. -/
@[simp] theorem required_named :
    (named entries).required place name read = (entries.lookup name).bind read :=
  rfl

/-- So is one that may be missing. -/
@[simp] theorem withDefault_named (missing : Result) :
    (named entries).withDefault place name missing read =
      ((entries.lookup name).map read).getD (some missing) := by
  have search : (named entries).find? place name = entries.lookup name := rfl
  rw [withDefault, search]
  cases entries.lookup name <;> rfl

end Record.Row

theorem FieldType.ofValue?_toValue (type : FieldType) :
    FieldType.ofValue? type.toValue = some type := by
  cases type <;> rfl

namespace PointDefinition

/-- The numbers of the definition fit the fields that they are kept in. -/
structure Representable (point : PointDefinition) : Prop where
  apid : point.apid < 1 <<< 16
  byteOffset : point.byteOffset < 1 <<< 64
  byteSize : point.byteSize < 1 <<< 64
  bitStart : point.bitStart < 1 <<< 16
  bitStop : point.bitStop < 1 <<< 16

/-- A definition is read as it was written, but for its conversion. -/
theorem ofValue?_toValue {point : PointDefinition} (fits : point.Representable) :
    ofValue? point.toValue = some { point with conversion := .identity } := by
  have apid := Value.unsigned?_ofNat fits.apid
  have byteOffset := Value.unsigned?_ofNat fits.byteOffset
  have byteSize := Value.unsigned?_ofNat fits.byteSize
  have bitStart := Value.unsigned?_ofNat fits.bitStart
  have bitStop := Value.unsigned?_ofNat fits.bitStop
  have type := point.fieldType.ofValue?_toValue
  simp [ofValue?, toValue, Row.open?, List.lookup_cons, Value.text?, apid, byteOffset, byteSize,
    bitStart, bitStop, type]

/-- A linked point that was written is read as one that finds no conversion. -/
theorem ofValue?_toValue_linked {point : PointDefinition} {apid : Nat} (fits : point.Representable)
    (owner : apid < 1 <<< 16) (conversions : ConversionTable) :
    ofValue? (point.linked apid conversions).toValue = some (point.linked apid ∅) := by
  have linkedFits : (point.linked apid conversions).Representable :=
    ⟨owner, fits.byteOffset, fits.byteSize, fits.bitStart, fits.bitStop⟩
  have nothing : (∅ : ConversionTable)[point.linkedName]? = none := Std.HashMap.getElem?_empty
  rw [ofValue?_toValue linkedFits, linked, linked, nothing]
  rfl

end PointDefinition

namespace PacketDefinition

/-- The numbers of the definition and its points fit the fields that they are kept in. -/
structure Representable (packet : PacketDefinition) : Prop where
  apid : packet.apid < 1 <<< 16
  points : ∀ point ∈ packet.points, point.Representable

/-- A linked packet that was written is read as one whose points find no conversions. -/
theorem ofValue?_toValue_linked {packet : PacketDefinition} (fits : packet.Representable)
    (conversions : ConversionTable) :
    ofValue? (packet.linked conversions).toValue = some (packet.linked ∅) := by
  have apid := Value.unsigned?_ofNat fits.apid
  have points : Value.list? PointDefinition.ofValue?
      (.ofList PointDefinition.toValue (packet.points.map (·.linked packet.apid conversions))) =
        some (packet.points.map (·.linked packet.apid ∅)) := by
    rw [Value.ofList, List.map_map]
    exact Value.list?_map fun point listed =>
      PointDefinition.ofValue?_toValue_linked (fits.points point listed) fits.apid conversions
  simp [ofValue?, toValue, Row.open?, List.lookup_cons, Value.text?, Value.boolean?, linked, apid,
    points]

end PacketDefinition

namespace Dictionary

/-- A dictionary that was written is read as one of its packets and no conversions. -/
theorem ofValue?_toValue {packets : List PacketDefinition}
    (fits : ∀ packet ∈ packets, packet.Representable) (conversions : List Conversion) :
    ofValue? (ofDefinitions packets conversions).toValue = some (ofDefinitions packets []) := by
  have read : Value.list? PacketDefinition.ofValue?
      (.ofList PacketDefinition.toValue (ofDefinitions packets conversions).packets) =
        some (packets.map (·.linked ∅)) := by
    rw [ofDefinitions, Value.ofList, List.map_map]
    exact Value.list?_map fun packet defined =>
      PacketDefinition.ofValue?_toValue_linked (fits packet defined) _
  rw [← ofDefinitions_map_linked packets [] ∅]
  simp [ofValue?, toValue, Row.open?, List.lookup_cons, read]

end Dictionary

/-! ### Values with other conversions -/

section Walks

variable {Item Result Fault : Type} {items : List Item}

/-- A walk has an answer where each of its steps has one. -/
theorem exists_mapM {step : Item → Except Fault Result}
    (answers : ∀ item ∈ items, ∃ result, step item = .ok result) :
    ∃ results, items.mapM step = .ok results := by
  induction items with
  | nil => exact ⟨[], rfl⟩
  | cons item items ih =>
    obtain ⟨⟨result, here⟩, others⟩ := List.forall_mem_cons.mp answers
    obtain ⟨results, rest⟩ := ih others
    rw [List.mapM_cons, here, rest]
    exact ⟨_, rfl⟩

/-- Two walks whose steps all have answers come to the same exactly if the answers are the same. -/
theorem mapM_eq_mapM_iff {first second : Item → Except Fault Result}
    (firstAnswers : ∀ item ∈ items, ∃ result, first item = .ok result)
    (secondAnswers : ∀ item ∈ items, ∃ result, second item = .ok result) :
    items.mapM first = items.mapM second ↔ ∀ item ∈ items, first item = second item := by
  induction items with
  | nil => exact ⟨fun _ => List.forall_mem_nil _, fun _ => rfl⟩
  | cons item items ih =>
    obtain ⟨⟨one, firstHere⟩, firstOthers⟩ := List.forall_mem_cons.mp firstAnswers
    obtain ⟨other, secondHere⟩ := secondAnswers item List.mem_cons_self
    have secondOthers := (List.forall_mem_cons.mp secondAnswers).2
    obtain ⟨firstRest, firstWalk⟩ := exists_mapM firstOthers
    obtain ⟨secondRest, secondWalk⟩ := exists_mapM secondOthers
    rw [List.mapM_cons, List.mapM_cons, List.forall_mem_cons, ← ih firstOthers secondOthers,
      firstHere, secondHere, firstWalk, secondWalk]
    show Except.ok (one :: firstRest) = Except.ok (other :: secondRest) ↔ _
    rw [Except.ok.injEq, Except.ok.injEq, Except.ok.injEq, List.cons.injEq]

end Walks

namespace Conversion

/-- The conversion that every dictionary has of itself under a name: the identity if there is none.
-/
def own (name : String) : Conversion :=
  (lastNamed? name builtins).getD .identity

end Conversion

namespace PointDefinition

/-- The conversion that was given under the name that the point is linked by, if there is one, makes
the same of every raw value of the point as the dictionary's own one. -/
def ConvertsAlike (point : PointDefinition) (conversions : List Conversion) : Prop :=
  ∀ supplied ∈ Conversion.lastNamed? point.linkedName conversions, ∀ packet raw,
    point.rawValue packet = .ok (.ok raw) →
      supplied.apply raw = (Conversion.own point.linkedName).apply raw

/-- A point has the conversion that was given under its name, or else the dictionary's own one. -/
theorem linked_conversion (point : PointDefinition) (apid : Nat) (conversions : List Conversion) :
    (point.linked apid
        (lastByKey Conversion.name (Conversion.builtins ++ conversions))).conversion =
      (Conversion.lastNamed? point.linkedName conversions).getD
        (Conversion.own point.linkedName) := by
  rw [linked, Conversion.getElem?_conversions, Conversion.own]
  cases Conversion.lastNamed? point.linkedName conversions <;> rfl

/-- With another conversion a point has the same values exactly if the conversions make the same of
all its raw values. -/
theorem value_linked_iff (point : PointDefinition) (apid : Nat) (first second : ConversionTable) :
    (∀ packet, (point.linked apid first).value packet = (point.linked apid second).value packet) ↔
      ∀ packet raw, (point.linked apid first).rawValue packet = .ok (.ok raw) →
        (point.linked apid first).conversion.apply raw =
          (point.linked apid second).conversion.apply raw := by
  refine forall_congr' fun packet => ?_
  -- The raw value does not depend on the conversion.
  have same : (point.linked apid second).rawValue packet =
      (point.linked apid first).rawValue packet := rfl
  rw [value, value, same]
  rcases (point.linked apid first).rawValue packet with breach | error | raw
  · simp [Except.map]
  · simp [Except.map, bind, Except.bind]
  · simp [Except.map, bind, Except.bind]

/-- So what was given makes no difference to a linked point exactly if it converts alike. -/
theorem convertsAlike_linked_iff (point : PointDefinition) (apid : Nat)
    (conversions : List Conversion) :
    (∀ packet,
        (point.linked apid (lastByKey Conversion.name (Conversion.builtins ++ conversions))).value
            packet =
          (point.linked apid (lastByKey Conversion.name (Conversion.builtins ++ []))).value
            packet) ↔
      (point.linked apid
        (lastByKey Conversion.name (Conversion.builtins ++ conversions))).ConvertsAlike
          conversions := by
  rw [value_linked_iff, linked_conversion, linked_conversion, ConvertsAlike, linkedName_linked]
  show (∀ packet raw, _ → _ = (Conversion.own point.linkedName).apply raw) ↔ _
  cases Conversion.lastNamed? point.linkedName conversions with
  | none => simp
  | some supplied => simp

end PointDefinition

namespace PacketDefinition

/-- The values of the points in a packet, in the order of the definition. -/
def values (definition : PacketDefinition) (packet : Bytes) :
    Except Breach (List (Except Error EngineeringValue)) :=
  (definition.decode packet).map (·.map (·.value))

/-- Point by point, the values are the same as with another definition, whatever the bytes. -/
def DecodesAs (definition other : PacketDefinition) : Prop :=
  ∀ packet, definition.values packet = other.values packet

/-- The values of a packet are those of its points alone. -/
theorem values_eq_mapM (definition : PacketDefinition) (packet : Bytes) :
    definition.values packet = definition.points.mapM (·.value packet) := by
  unfold values decode
  induction definition.points with
  | nil => rfl
  | cons point points ih =>
    rw [List.mapM_cons, List.mapM_cons, ← ih]
    cases point.value packet with
    | error breach => rfl
    | ok value =>
      show Except.map _ (List.mapM _ points >>= _) = Except.map _ (List.mapM _ points) >>= _
      cases points.mapM fun point => return DecodedPoint.mk point (← point.value packet) <;> rfl

/-- Where the field of a point ends beyond the range, there are no values. -/
theorem values_of_not_endsInRange {definition : PacketDefinition}
    (far : ∃ point ∈ definition.points, ¬ point.EndsInRange) (packet : Bytes) :
    definition.values packet = .error .overflow := by
  rw [values, decode_of_not_endsInRange far]
  rfl

/-- With other conversions a packet has the same values exactly if all its points do, unless it
cannot be decoded at all. -/
theorem decodesAs_linked_iff (packet : PacketDefinition) (first second : ConversionTable) :
    (packet.linked first).DecodesAs (packet.linked second) ↔
      ((∀ point ∈ packet.points, (point.linked packet.apid first).EndsInRange) →
        ∀ point ∈ packet.points, ∀ bytes,
          (point.linked packet.apid first).value bytes =
            (point.linked packet.apid second).value bytes) := by
  by_cases range : ∀ point ∈ packet.points, (point.linked packet.apid first).EndsInRange
  case pos =>
    have walks : ∀ bytes, (packet.linked first).values bytes = (packet.linked second).values bytes ↔
        ∀ point ∈ packet.points,
          (point.linked packet.apid first).value bytes =
            (point.linked packet.apid second).value bytes := by
      intro bytes
      -- Where a field ends does not depend on the conversion either.
      have answers : ∀ conversions : ConversionTable, ∀ point ∈ packet.points,
          ∃ value, (point.linked packet.apid conversions).value bytes = .ok value := by
        intro conversions point listed
        have ends : (point.linked packet.apid conversions).EndsInRange := range point listed
        exact PointDefinition.exists_value ends bytes
      rw [values_eq_mapM, values_eq_mapM, linked, linked, List.mapM_map, List.mapM_map]
      exact mapM_eq_mapM_iff (answers first) (answers second)
    simp only [DecodesAs, walks]
    exact ⟨fun same _ point listed bytes => same bytes point listed,
      fun same bytes point listed => same range point listed bytes⟩
  case neg =>
    refine ⟨fun _ inRange => absurd inRange range, fun _ bytes => ?_⟩
    have far : ∃ point ∈ packet.points, ¬ (point.linked packet.apid first).EndsInRange := by
      simpa using range
    obtain ⟨point, listed, beyond⟩ := far
    have farIn : ∀ conversions : ConversionTable,
        ∃ point ∈ (packet.linked conversions).points, ¬ point.EndsInRange :=
      fun conversions => ⟨_, List.mem_map_of_mem listed, beyond⟩
    rw [values_of_not_endsInRange (farIn first), values_of_not_endsInRange (farIn second)]

end PacketDefinition

/-! ### Dictionaries -/

namespace Dictionary

/-- The packets of a dictionary have the same values, point by point and whatever their bytes, as
those in the same places of another one. -/
def DecodesAs (dictionary other : Dictionary) : Prop :=
  List.Forall₂ PacketDefinition.DecodesAs dictionary.packets other.packets

/-- **What is lost when a dictionary is written and read again.** The packets are there, each with
its points as they were linked, but no conversion that was given to the dictionary is. All values
are the same as before exactly if in every packet that can be decoded the conversions that were
given under the names of its points make the same of their raw values as those that the dictionary
has of itself. -/
theorem decodesAs_reread_iff {packets : List PacketDefinition}
    (fits : ∀ packet ∈ packets, packet.Representable) (conversions : List Conversion) :
    ∃ reread, ofValue? (ofDefinitions packets conversions).toValue = some reread ∧
      reread = ofDefinitions packets [] ∧
      ((ofDefinitions packets conversions).DecodesAs reread ↔
        ∀ packet ∈ (ofDefinitions packets conversions).packets,
          (∀ point ∈ packet.points, point.EndsInRange) →
            ∀ point ∈ packet.points, point.ConvertsAlike conversions) := by
  refine ⟨_, ofValue?_toValue fits conversions, rfl, ?_⟩
  rw [DecodesAs, ofDefinitions, ofDefinitions, List.forall₂_map_left_iff,
    List.forall₂_map_right_iff, List.forall₂_same, List.forall_mem_map]
  refine forall₂_congr fun packet _ => ?_
  rw [PacketDefinition.decodesAs_linked_iff]
  simp only [PointDefinition.convertsAlike_linked_iff, PacketDefinition.linked,
    List.forall_mem_map]

/-- A point with a conversion of its own. -/
def switchPoint : PointDefinition :=
  { id := "HK.MODE", name := "MODE", fieldType := .u1, conversionName := "Mode" }

/-- The packet in which it lies. -/
def switchPacket : PacketDefinition :=
  { apid := 100, id := "HK", name := "HK", points := [switchPoint] }

/-- Its conversion. -/
def switchWords : Conversion :=
  .discreteList { name := "Mode", values := ["OFF", "ON"] }

/-- A conversion of another name. -/
def lampWords : Conversion :=
  .discreteList { name := "Lamp", values := ["DARK", "LIT"] }

theorem representable_switchPacket : ∀ packet ∈ [switchPacket], packet.Representable := by
  rw [List.forall_mem_singleton]
  refine ⟨by decide, ?_⟩
  show ∀ point ∈ [switchPoint], point.Representable
  rw [List.forall_mem_singleton]
  constructor <;> decide

/-- A dictionary loses no value with a conversion that none of its points has. -/
theorem decodesAs_reread_lampWords :
    (∀ packet ∈ [switchPacket], packet.Representable) ∧
      ∃ reread, ofValue? (ofDefinitions [switchPacket] [lampWords]).toValue = some reread ∧
        (ofDefinitions [switchPacket] [lampWords]).DecodesAs reread := by
  have fits := representable_switchPacket
  obtain ⟨reread, read, -, alike⟩ := decodesAs_reread_iff fits [lampWords]
  refine ⟨fits, reread, read, alike.mpr ?_⟩
  intro packet defined _ point listed supplied given
  obtain rfl := List.mem_singleton.mp defined
  obtain rfl := List.mem_singleton.mp listed
  rw [PointDefinition.linkedName_linked] at given
  cases given

theorem values_switchPacket (conversions : List Conversion) :
    (switchPacket.linked (lastByKey Conversion.name (Conversion.builtins ++ conversions))).values
        [1] =
      .ok [((Conversion.lastNamed? "Mode" conversions).getD (Conversion.own "Mode")).apply
        (.uint8 1)] := by
  let point :=
    switchPoint.linked 100 (lastByKey Conversion.name (Conversion.builtins ++ conversions))
  have conversion := switchPoint.linked_conversion 100 conversions
  have alone : point.value [1] = .ok (point.conversion.apply (.uint8 1)) := rfl
  rw [PacketDefinition.values_eq_mapM]
  show [point].mapM (·.value [1]) = _
  rw [List.mapM_cons, alone, conversion]
  rfl

/-- **A dictionary that is read again has lost the conversion of a point.** What it told in words
before is told as the raw value then. -/
theorem not_decodesAs_reread :
    ∃ reread, ofValue? (ofDefinitions [switchPacket] [switchWords]).toValue = some reread ∧
      (ofDefinitions [switchPacket] [switchWords]).packets.map (·.values [1]) =
        [.ok [.ok (.enumeration "ON")]] ∧
      reread.packets.map (·.values [1]) = [.ok [.ok (.raw (.uint8 1))]] ∧
      ¬ (ofDefinitions [switchPacket] [switchWords]).DecodesAs reread := by
  have before : (switchPacket.linked
      (lastByKey Conversion.name (Conversion.builtins ++ [switchWords]))).values [1] =
        .ok [.ok (.enumeration "ON")] := values_switchPacket [switchWords]
  have after : (switchPacket.linked
      (lastByKey Conversion.name (Conversion.builtins ++ []))).values [1] =
        .ok [.ok (.raw (.uint8 1))] := values_switchPacket []
  refine ⟨_, ofValue?_toValue representable_switchPacket [switchWords], ?_, ?_, fun alike => ?_⟩
  · exact congrArg (fun values => [values]) before
  · exact congrArg (fun values => [values]) after
  · have same := (List.forall₂_cons.mp alike).1 [1]
    rw [before, after] at same
    cases same

end Dictionary

end Downlink
