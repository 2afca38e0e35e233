/-
**Decoding the points of a packet.**

The points of a packet are decoded one after another, and each has the value that it has alone, so
that a point which cannot be decoded does not keep the others from it. There is one exception. Where
a field ends is added up before the length of the packet is looked at, and if that place cannot be
counted (`PointDefinition.EndsInRange`) there is no answer for the point, nor for any other point of
the packet:

* `PointDefinition.exists_value`, `PointDefinition.value_of_not_endsInRange`: which points have an
  answer;
* `PacketDefinition.decode_iff_endsInRange`: which packets have one, and that its entries are those
  of the points alone;
* `PacketDefinition.decode_farPoint`: a point that keeps another one from being decoded.
-/

import Downlink.Dictionary.PacketDefinition
import Downlink.Proofs.Point.Checked

namespace Downlink

/-! ### Points alone -/

namespace PointDefinition

/-- The place where the field ends can be counted, if the point has a field. -/
def EndsInRange (point : PointDefinition) : Prop :=
  point.fieldType = .pseudo ∨ point.fieldType = .fullPacket ∨
    point.byteOffset + point.fieldType.width point.byteSize < sizeBound

instance (point : PointDefinition) : Decidable point.EndsInRange :=
  inferInstanceAs (Decidable (_ ∨ _ ∨ _))

variable {point : PointDefinition}

/-- A field that ends in range is there, or the packet is too short for it. -/
theorem exists_field (range : point.EndsInRange) (packet : Bytes) :
    ∃ field, point.field packet = .ok field := by
  unfold field
  split
  case h_1 | h_2 => exact ⟨_, rfl⟩
  case h_3 noPseudo noPacket =>
    have counted := (range.resolve_left noPseudo).resolve_left noPacket
    simp only [if_neg (Nat.not_le_of_lt counted)]
    split <;> exact ⟨_, rfl⟩

theorem field_of_not_endsInRange (far : ¬ point.EndsInRange) (packet : Bytes) :
    point.field packet = .error .overflow := by
  obtain ⟨noPseudo, noPacket, beyond⟩ := not_or.mp far |>.imp_right not_or.mp
  unfold field
  split
  case h_1 pseudo => exact absurd pseudo noPseudo
  case h_2 whole => exact absurd whole noPacket
  case h_3 => exact if_pos (Nat.le_of_not_lt beyond)

/-- A point whose field ends in range has a value, or an error that says why not. -/
theorem exists_value (range : point.EndsInRange) (packet : Bytes) :
    ∃ value, point.value packet = .ok value := by
  obtain ⟨field, found⟩ := exists_field range packet
  rw [value, rawValue, found]
  exact ⟨_, rfl⟩

/-- A point whose field ends beyond the range has no answer. -/
theorem value_of_not_endsInRange (far : ¬ point.EndsInRange) (packet : Bytes) :
    point.value packet = .error .overflow := by
  rw [value, rawValue, field_of_not_endsInRange far]
  rfl

end PointDefinition

/-! ### Points of a packet -/

namespace PacketDefinition

/-- The values of the points in a packet, decoded check by check. -/
def checkedDecode (definition : PacketDefinition) (packet : Bytes) :
    Except Breach (List DecodedPoint) :=
  definition.points.mapM fun point => return ⟨point, ← point.checkedValue packet⟩

theorem checkedDecode_eq (definition : PacketDefinition) (packet : Bytes) :
    definition.checkedDecode packet = definition.decode packet := by
  simp only [checkedDecode, PointDefinition.checkedValue_eq, decode]

/-- There is an entry for each point, in the order of the points, with the value that the point has
alone. -/
def Entries (points : List PointDefinition) (packet : Bytes) (decoded : List DecodedPoint) : Prop :=
  decoded.map (·.point) = points ∧ ∀ entry ∈ decoded, entry.point.value packet = .ok entry.value

/-- Where the fields of all points end in range, all points are decoded. -/
theorem exists_decode {definition : PacketDefinition}
    (range : ∀ point ∈ definition.points, point.EndsInRange) (packet : Bytes) :
    ∃ decoded, definition.decode packet = .ok decoded ∧
      Entries definition.points packet decoded := by
  unfold decode
  generalize definition.points = points at range ⊢
  induction points with
  | nil => exact ⟨[], rfl, rfl, fun entry member => nomatch member⟩
  | cons point points ih =>
    obtain ⟨here, others⟩ := List.forall_mem_cons.mp range
    obtain ⟨value, alone⟩ := PointDefinition.exists_value here packet
    obtain ⟨decoded, done, order, values⟩ := ih others
    refine ⟨⟨point, value⟩ :: decoded, ?_, congrArg (point :: ·) order,
      List.forall_mem_cons.mpr ⟨alone, values⟩⟩
    rw [List.mapM_cons, alone, done]
    rfl

/-- Where the field of a point ends beyond the range, nothing is decoded. -/
theorem decode_of_not_endsInRange {definition : PacketDefinition}
    (far : ∃ point ∈ definition.points, ¬ point.EndsInRange) (packet : Bytes) :
    definition.decode packet = .error .overflow := by
  unfold decode
  generalize definition.points = points at far ⊢
  induction points with
  | nil => exact absurd far (by simp)
  | cons point points ih =>
    rw [List.mapM_cons]
    by_cases here : point.EndsInRange
    case neg => rw [PointDefinition.value_of_not_endsInRange here]; rfl
    case pos =>
      -- The value of a point is lost when one behind it fails.
      obtain ⟨value, alone⟩ := PointDefinition.exists_value here packet
      have others : ∃ point ∈ points, ¬ point.EndsInRange := by
        simpa only [List.mem_cons, exists_eq_or_imp, here, not_true, false_or] using far
      rw [alone, ih others]
      rfl

/-- **A packet is decoded point by point, each as it is alone, exactly when the fields of all points
end in range.** Otherwise the sum of where a field begins and how wide it is fails, and with it the
whole packet. No other check fails. -/
theorem decode_iff_endsInRange (definition : PacketDefinition) (packet : Bytes) :
    definition.checkedDecode packet = definition.decode packet ∧
      ((∀ point ∈ definition.points, point.EndsInRange) ↔
        ∃ decoded, definition.decode packet = .ok decoded ∧
          Entries definition.points packet decoded) ∧
      ((∃ point ∈ definition.points, ¬ point.EndsInRange) ↔
        definition.decode packet = .error .overflow) := by
  refine ⟨checkedDecode_eq definition packet, ⟨fun range => exists_decode range packet, ?_⟩,
    ⟨fun far => decode_of_not_endsInRange far packet, ?_⟩⟩
  · rintro ⟨decoded, done, -⟩ point member
    refine Decidable.byContradiction fun beyond => ?_
    rw [decode_of_not_endsInRange ⟨point, member, beyond⟩] at done
    cases done
  · intro failed
    refine Decidable.byContradiction fun within => ?_
    obtain ⟨decoded, done, -⟩ := exists_decode (by simpa using within) packet
    rw [failed] at done
    cases done

/-- A point whose field lies as far behind as a place can be. -/
def farPoint : PointDefinition :=
  { id := "HK.FAR", name := "FAR", fieldType := .u1, byteOffset := sizeBound - 1 }

/-- A point whose field is the first byte. -/
def nearPoint : PointDefinition :=
  { id := "HK.NEAR", name := "NEAR", fieldType := .u1 }

/-- A point whose field ends beyond the range keeps another one from being decoded, though that one
alone has a value. -/
theorem decode_farPoint :
    decode { apid := 100, id := "HK", name := "HK", points := [farPoint, nearPoint] } [8] =
        .error .overflow ∧
      nearPoint.value [8] = .ok (.ok (.raw (.uint8 8))) := by
  refine ⟨decode_of_not_endsInRange ⟨farPoint, List.mem_cons_self, ?_⟩ [8], rfl⟩
  decide

end PacketDefinition

end Downlink
