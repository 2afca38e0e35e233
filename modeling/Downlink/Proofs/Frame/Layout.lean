/-
**Which layouts of frames are accepted.**

A layout is accepted when its header and its pointer have room and something is left for packets.
One that is not accepted has a fault (`FrameLayout.HasFault`), and the first one that is checked is
reported. There is one exception. The bytes outside the packet zone are added up before the length
of the frame is looked at, and where they cannot be counted (`FrameLayout.OverheadOverflows`) nothing
is reported at all:

* `FrameLayout.geometry_cases`: what can come of a layout;
* `FrameLayout.checkedGeometry_eq`: no other sum or difference on the way fails;
* `FrameLayout.representable_of_ofValue?`: what is known of a layout that was read;
* `FrameLayout.geometry_exact`: so a layout is accepted exactly when it has room, and then has the
  places that follow from its lengths;
* `FrameLayout.geometry_countlessLayout`: a layout with a fault that is not reported.
-/

import Downlink.Frame.Geometry
import Downlink.Proofs.Checks
import Downlink.Record.Frame

namespace Downlink.FrameLayout

/-- The lengths are 64-bit and the pointer is 16-bit. -/
structure Representable (layout : FrameLayout) : Prop where
  frameLength : layout.frameLength < sizeBound
  headerLength : layout.headerLength < sizeBound
  trailerLength : layout.trailerLength < sizeBound
  pointerHeaderLength : layout.pointerHeaderLength < sizeBound
  idlePointer : layout.idlePointer < 0x10000

/-- The header and the pointer have room, and something is left for packets. -/
structure HasRoom (layout : FrameLayout) : Prop where
  header : 6 ≤ layout.headerLength
  pointer : 2 ≤ layout.pointerHeaderLength
  zone : layout.headerLength + layout.pointerHeaderLength + layout.trailerLength <
    layout.frameLength

/-- What is wrong with a layout; a fault counts only where those that are checked before it do not
hold. -/
inductive HasFault (layout : FrameLayout) : LayoutFault → Prop
  | shortHeader (short : layout.headerLength < 6) :
    HasFault layout (.shortHeader layout.headerLength)
  | shortPointerField (header : 6 ≤ layout.headerLength)
    (narrow : layout.pointerHeaderLength < 2) : HasFault layout .shortPointerField
  | noPacketZone (header : 6 ≤ layout.headerLength) (pointer : 2 ≤ layout.pointerHeaderLength)
    (full : layout.frameLength ≤ layout.overhead) :
    HasFault layout (.noPacketZone layout.frameLength layout.overhead)

/-- The bytes outside the packet zone are added up and cannot be counted. -/
structure OverheadOverflows (layout : FrameLayout) : Prop where
  header : 6 ≤ layout.headerLength
  pointer : 2 ≤ layout.pointerHeaderLength
  countless : sizeBound ≤ layout.overhead

/-- The places that follow from the lengths of a layout. -/
structure Describes (layout : FrameLayout) (geometry : FrameGeometry) : Prop where
  frameLength : geometry.frameLength = layout.frameLength
  headerLength : geometry.headerLength = layout.headerLength
  idlePointer : geometry.idlePointer = layout.idlePointer
  zoneStart : geometry.zoneStart = layout.headerLength + layout.pointerHeaderLength
  zoneLength : 1 ≤ geometry.zoneLength
  zoneEnd : geometry.zoneEnd = geometry.zoneStart + geometry.zoneLength
  trailer : geometry.zoneEnd + layout.trailerLength = layout.frameLength

variable {layout : FrameLayout}

/-! ### What can come of a layout -/

/-- A layout that has room has no fault. -/
theorem HasRoom.not_hasFault (room : layout.HasRoom) (fault : LayoutFault) :
    ¬ layout.HasFault fault := by
  intro wrong
  cases wrong with
  | shortHeader short => exact Nat.not_lt.mpr room.header short
  | shortPointerField _ narrow => exact Nat.not_lt.mpr room.pointer narrow
  | noPacketZone _ _ full => exact Nat.not_lt.mpr full room.zone

/-- There is at most one fault to report. -/
theorem HasFault.unique {fault other : LayoutFault} (first : layout.HasFault fault)
    (second : layout.HasFault other) : fault = other := by
  cases first <;> cases second <;> first | rfl | omega

/-- The overhead of a layout that has room is less than the length of its frames. -/
theorem HasRoom.not_overheadOverflows (room : layout.HasRoom)
    (counted : layout.frameLength < sizeBound) : ¬ layout.OverheadOverflows := by
  intro overflows
  exact Nat.not_le.mpr (Nat.lt_trans room.zone counted) overflows.countless

/-- **What can come of a layout**: the report of a fault, a breach, or a geometry. -/
theorem geometry_cases (layout : FrameLayout) :
    (∃ fault, layout.HasFault fault ∧ ¬ layout.OverheadOverflows ∧
        layout.geometry = .ok (.error (.invalidLayout fault))) ∨
      (layout.OverheadOverflows ∧ layout.geometry = .error .overflow) ∨
      ∃ geometry, layout.HasRoom ∧ layout.geometry = .ok (.ok geometry) ∧
        layout.Describes geometry := by
  unfold geometry
  split
  case isTrue short =>
    exact .inl ⟨_, .shortHeader short, fun overflows => Nat.not_lt.mpr overflows.header short, rfl⟩
  case isFalse long =>
    have header : 6 ≤ layout.headerLength := Nat.not_lt.mp long
    split
    case isTrue narrow =>
      exact .inl ⟨_, .shortPointerField header narrow,
        fun overflows => Nat.not_lt.mpr overflows.pointer narrow, rfl⟩
    case isFalse wide =>
      have pointer := Nat.not_lt.mp wide
      split
      case isTrue countless => exact .inr (.inl ⟨⟨header, pointer, countless⟩, rfl⟩)
      case isFalse counted =>
        split
        case isTrue full =>
          exact .inl ⟨_, .noPacketZone header pointer full,
            fun overflows => counted overflows.countless, rfl⟩
        case isFalse room =>
          have zone : layout.overhead < layout.frameLength := Nat.not_le.mp room
          refine .inr (.inr ⟨_, ⟨header, pointer, zone⟩, rfl, rfl, rfl, rfl, rfl,
            Nat.sub_pos_of_lt zone, rfl, ?_⟩)
          show layout.headerLength + layout.pointerHeaderLength +
            (layout.frameLength - layout.overhead) + layout.trailerLength = layout.frameLength
          rw [overhead] at zone ⊢
          omega

/-! ### The sums on the way -/

theorem header_le_of (long : ¬ layout.headerLength < FrameField.headerLength) :
    FrameField.headerLength ≤ layout.headerLength :=
  Nat.not_lt.mp long

theorem pointer_le_of (wide : ¬ layout.pointerHeaderLength < 2) :
    layout.headerLength + 2 ≤ layout.headerLength + layout.pointerHeaderLength :=
  Nat.add_le_add_left (Nat.not_lt.mp wide) _

theorem zone_pos_of (room : ¬ layout.frameLength ≤ layout.overhead) :
    0 < layout.frameLength - layout.overhead :=
  Nat.sub_pos_of_lt (Nat.not_le.mp room)

/-- A zone that begins behind the pointer and has what the overhead leaves ends in the frame. -/
theorem zone_le_of (room : ¬ layout.frameLength ≤ layout.overhead) :
    layout.headerLength + layout.pointerHeaderLength + (layout.frameLength - layout.overhead) ≤
      layout.frameLength := by
  rw [overhead] at room ⊢
  omega

/-- The geometry of a frame and the end of its packet zone, sum by sum. -/
def checkedGeometry (layout : FrameLayout) :
    Except Breach (Except Error (FrameGeometry × Nat)) :=
  if short : layout.headerLength < FrameField.headerLength then
    .ok (.error (.invalidLayout (.shortHeader layout.headerLength)))
  else if narrow : layout.pointerHeaderLength < 2 then
    .ok (.error (.invalidLayout .shortPointerField))
  else do
    Breach.overflow.ensure (layout.headerLength + layout.pointerHeaderLength < sizeBound)
    Breach.overflow.ensure (layout.overhead < sizeBound)
    if full : layout.frameLength ≤ layout.overhead then
      return .error (.invalidLayout (.noPacketZone layout.frameLength layout.overhead))
    else
      Breach.overflow.ensure (layout.overhead ≤ layout.frameLength)
      let zoneStart := layout.headerLength + layout.pointerHeaderLength
      let zoneLength := layout.frameLength - layout.overhead
      Breach.overflow.ensure (zoneStart + zoneLength < sizeBound)
      return .ok (
        { frameLength := layout.frameLength
          headerLength := layout.headerLength
          zoneStart
          zoneLength
          idlePointer := layout.idlePointer
          header_le := header_le_of short
          pointer_le := pointer_le_of narrow
          zone_pos := zone_pos_of full
          zone_le := zone_le_of full },
        zoneStart + zoneLength)

/-- Only the sum of the bytes outside the packet zone can fail. -/
theorem checkedGeometry_eq (counted : layout.frameLength < sizeBound) :
    layout.checkedGeometry =
      layout.geometry.map (·.map fun geometry => (geometry, geometry.zoneEnd)) := by
  unfold checkedGeometry geometry
  split
  case isTrue => rfl
  case isFalse =>
    split
    case isTrue => rfl
    case isFalse =>
      by_cases countless : sizeBound ≤ layout.overhead
      case pos =>
        rw [if_pos countless]
        have overflows := Nat.not_lt.mpr countless
        by_cases start : layout.headerLength + layout.pointerHeaderLength < sizeBound
        · rw [Breach.ensure_bind start, Breach.ensure_bind_of_not overflows]
          rfl
        · rw [Breach.ensure_bind_of_not start]
          rfl
      case neg =>
        have sum : layout.overhead < sizeBound := Nat.not_le.mp countless
        have start : layout.headerLength + layout.pointerHeaderLength < sizeBound :=
          Nat.lt_of_le_of_lt (Nat.le_add_right _ _) sum
        rw [if_neg countless, Breach.ensure_bind start, Breach.ensure_bind sum]
        split
        case isTrue => rfl
        case isFalse room =>
          have zone : layout.overhead ≤ layout.frameLength := Nat.le_of_not_le room
          have stop : layout.headerLength + layout.pointerHeaderLength +
              (layout.frameLength - layout.overhead) < sizeBound :=
            Nat.lt_of_le_of_lt (zone_le_of room) counted
          rw [Breach.ensure_bind zone]
          exact Breach.ensure_bind stop _

/-! ### Layouts that are read -/

open Record in
/-- A number of so many bits, or the one that stands for a missing field. -/
theorem withDefault_unsigned?_lt {row : Row} {place : Nat} {name : String}
    {missing bits number : Nat} (usual : missing < 1 <<< bits)
    (read : row.withDefault place name missing (Value.unsigned? bits) = some number) :
    number < 1 <<< bits := by
  unfold Row.withDefault at read
  cases field : row.find? place name with
  | none =>
    rw [field] at read
    exact Option.some.inj read ▸ usual
  | some value =>
    rw [field] at read
    obtain ⟨natural, -, held⟩ := Option.bind_eq_some_iff.mp read
    split at held
    case isTrue small => exact Option.some.inj held ▸ small
    case isFalse => cases held

/-- Whatever is read as a layout is representable. -/
theorem representable_of_ofValue? {value : Record.Value} (read : ofValue? value = some layout) :
    layout.Representable := by
  simp only [ofValue?, Option.bind_eq_bind, Option.bind_eq_some_iff] at read
  obtain ⟨row, -, frame, frameRead, header, headerRead, trailer, trailerRead, pointer, pointerRead,
    idle, idleRead, made⟩ := read
  obtain rfl := Option.some.inj made
  exact ⟨withDefault_unsigned?_lt (by decide) frameRead,
    withDefault_unsigned?_lt (by decide) headerRead,
    withDefault_unsigned?_lt (by decide) trailerRead,
    withDefault_unsigned?_lt (by decide) pointerRead,
    withDefault_unsigned?_lt (by decide) idleRead⟩

/-! ### Exactly which -/

/-- A layout comes to a geometry exactly if it has room. -/
theorem exists_geometry_iff (counted : layout.frameLength < sizeBound) :
    (∃ geometry, layout.geometry = .ok (.ok geometry)) ↔ layout.HasRoom := by
  rcases layout.geometry_cases with
    ⟨fault, wrong, -, reported⟩ | ⟨overflows, failed⟩ | ⟨geometry, room, accepted, -⟩
  · rw [reported]
    refine ⟨fun ⟨_, same⟩ => ?_, fun room => absurd wrong (room.not_hasFault fault)⟩
    cases Except.ok.inj same
  · rw [failed]
    refine ⟨fun ⟨_, same⟩ => ?_, fun room => absurd overflows (room.not_overheadOverflows counted)⟩
    cases same
  · exact ⟨fun _ => room, fun _ => ⟨geometry, accepted⟩⟩

/-- A fault is reported exactly if the layout has it and the overhead can be counted. -/
theorem geometry_eq_error_iff (error : Error) :
    layout.geometry = .ok (.error error) ↔
      ∃ fault, error = .invalidLayout fault ∧ layout.HasFault fault ∧
        ¬ layout.OverheadOverflows := by
  rcases layout.geometry_cases with
    ⟨fault, wrong, countable, reported⟩ | ⟨overflows, failed⟩ | ⟨geometry, room, accepted, -⟩
  · rw [reported]
    constructor
    · intro same
      exact ⟨fault, (Except.error.inj (Except.ok.inj same)).symm, wrong, countable⟩
    · rintro ⟨other, rfl, alsoWrong, -⟩
      rw [wrong.unique alsoWrong]
  · rw [failed]
    refine ⟨fun same => ?_, fun ⟨_, _, _, countable⟩ => absurd overflows countable⟩
    cases same
  · rw [accepted]
    refine ⟨fun same => ?_, fun ⟨fault, _, wrong, _⟩ => absurd wrong (room.not_hasFault fault)⟩
    cases Except.ok.inj same

/-- There is no answer exactly if the overhead is added up and cannot be counted. -/
theorem geometry_eq_breach_iff (counted : layout.frameLength < sizeBound) (breach : Breach) :
    layout.geometry = .error breach ↔ breach = .overflow ∧ layout.OverheadOverflows := by
  rcases layout.geometry_cases with
    ⟨fault, -, countable, reported⟩ | ⟨overflows, failed⟩ | ⟨geometry, room, accepted, -⟩
  · rw [reported]
    refine ⟨fun same => ?_, fun ⟨_, overflows⟩ => absurd overflows countable⟩
    cases same
  · rw [failed]
    refine ⟨fun same => ⟨(Except.error.inj same).symm, overflows⟩, ?_⟩
    rintro ⟨rfl, -⟩
    rfl
  · rw [accepted]
    refine ⟨fun same => ?_,
      fun ⟨_, overflows⟩ => absurd overflows (room.not_overheadOverflows counted)⟩
    cases same

/-- **A layout is accepted exactly when it has room**, added up without bounds, and then has the
places that follow from its lengths. Any other layout is reported with its first fault, but for
those whose overhead is added up and cannot be counted: these have no answer. No other sum or
difference fails. -/
theorem geometry_exact (fits : layout.Representable) :
    ((∃ geometry, layout.geometry = .ok (.ok geometry)) ↔ layout.HasRoom) ∧
      (∀ geometry, layout.geometry = .ok (.ok geometry) → layout.Describes geometry) ∧
      (∀ error, layout.geometry = .ok (.error error) ↔
        ∃ fault, error = .invalidLayout fault ∧ layout.HasFault fault ∧
          ¬ layout.OverheadOverflows) ∧
      (∀ breach, layout.geometry = .error breach ↔
        breach = .overflow ∧ layout.OverheadOverflows) ∧
      layout.checkedGeometry =
        layout.geometry.map (·.map fun geometry => (geometry, geometry.zoneEnd)) := by
  refine ⟨exists_geometry_iff fits.frameLength, fun geometry accepted => ?_,
    geometry_eq_error_iff, geometry_eq_breach_iff fits.frameLength,
    checkedGeometry_eq fits.frameLength⟩
  rcases layout.geometry_cases with ⟨_, _, _, reported⟩ | ⟨_, failed⟩ | ⟨_, _, made, describes⟩
  · cases Except.ok.inj (reported.symm.trans accepted)
  · cases failed.symm.trans accepted
  · obtain rfl := Except.ok.inj (Except.ok.inj (made.symm.trans accepted))
    exact describes

/-- The longest frames that there can be, with but one byte for packets. -/
def tightLayout : FrameLayout :=
  { frameLength := sizeBound - 1, trailerLength := sizeBound - 10 }

theorem geometry_tightLayout :
    tightLayout.Representable ∧ tightLayout.HasRoom ∧
      ∃ geometry, tightLayout.geometry = .ok (.ok geometry) ∧ geometry.zoneStart = 8 ∧
        geometry.zoneLength = 1 ∧ geometry.zoneEnd = 9 := by
  have fits : tightLayout.Representable := by constructor <;> decide
  have room : tightLayout.HasRoom := by constructor <;> decide
  obtain ⟨accepts, describes, -⟩ := geometry_exact fits
  obtain ⟨geometry, accepted⟩ := accepts.mpr room
  have described := describes geometry accepted
  have start : geometry.zoneStart = 8 := described.zoneStart
  have stop : geometry.zoneEnd + (sizeBound - 10) = sizeBound - 1 := described.trailer
  have whole := described.zoneEnd
  have bound : sizeBound = 2 ^ 64 := rfl
  exact ⟨fits, room, geometry, accepted, start, by omega, by omega⟩

/-- A header so long that no more can be added to its length. -/
def countlessLayout : FrameLayout :=
  { headerLength := sizeBound - 1 }

/-- **A layout whose overhead cannot be counted is not reported**, though it can be read and leaves
no room for packets. -/
theorem geometry_countlessLayout :
    ofValue? countlessLayout.toValue = some countlessLayout ∧
      countlessLayout.HasFault (.noPacketZone 1115 countlessLayout.overhead) ∧
      countlessLayout.geometry = .error .overflow ∧
      ∀ error, countlessLayout.geometry ≠ .ok (.error error) := by
  refine ⟨rfl, .noPacketZone (by decide) (by decide) (by decide), rfl, fun error same => ?_⟩
  cases same

end Downlink.FrameLayout
