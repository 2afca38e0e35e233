/-
**Packets written and read.**

A packet is built from an APID, a sequence count, a time and user data, and these are what is read
off its bytes, each cut to the bits that its field has. Every packet of this kind comes from what is
read off it. The fields can also be written one by one into a buffer; they share no byte, so the
order in which they are written makes no difference.

* `PacketDraft.build_eq`: a built packet is the six bytes of its header and its body, if the length
  field can count the body;
* `PacketDraft.exists_readsBack`: what is read off a built packet;
* `Packet.build_draft`: building from what was read off a packet;
* `PacketField.foldlM_writes`: the fields written in any order;
* `PacketDraft.write_read_inverse`: all of this in one statement.
-/

import Mathlib.Data.List.Pairwise
import Mathlib.Data.List.Perm.Basic
import Downlink.Packet.Writer
import Downlink.Proofs.Packet.Header

namespace Downlink

/-! ### The bytes of a built packet -/

namespace PacketField

theorem identification_eq (apid : Nat) (timed : Bool) :
    identification apid timed =
      ByteOrder.spell .mostFirst 2 (timed.toNat * 0x800 + apid % 0x800) := by
  have low : (timed.toNat * 0x800 + apid % 0x800) % 256 = apid % 0x100 := by omega
  have high : (timed.toNat * 0x800 + apid % 0x800) / 256 % 256 =
      apid / 0x100 % 8 + if timed then 8 else 0 := by
    cases timed
    · show (0 * 0x800 + apid % 0x800) / 256 % 256 = apid / 0x100 % 8 + 0
      omega
    · show (1 * 0x800 + apid % 0x800) / 256 % 256 = apid / 0x100 % 8 + 8
      omega
  show _ = [UInt8.ofNat (_ / 256 % 256), UInt8.ofNat (_ % 256)]
  rw [low, high]
  rfl

end PacketField

/-- A header as it is written: version 0, telemetry, and not part of a group. -/
def PrimaryHeader.plain (timed : Bool) (apid sequenceCount lengthField : Nat) : PrimaryHeader where
  version := 0
  typeFlag := 0
  hasSecondaryHeader := timed
  apid := apid % 0x800
  sequenceFlags := 3
  sequenceCount := sequenceCount % 0x4000
  lengthField

theorem PrimaryHeader.encode_plain (timed : Bool) (apid sequenceCount lengthField : Nat) :
    (plain timed apid sequenceCount lengthField).encode =
      PacketField.identification apid timed ++
        ByteOrder.spell .mostFirst 2 (PacketField.sequenceWord sequenceCount) ++
        ByteOrder.spell .mostFirst 2 lengthField := by
  have streamId : (plain timed apid sequenceCount lengthField).streamId =
      timed.toNat * 0x800 + apid % 0x800 := by
    show 0 * 0x2000 + 0 * 0x1000 + timed.toNat * 0x800 + apid % 0x800 = _
    omega
  rw [encode, streamId, ← PacketField.identification_eq]
  rfl

/-- A header that says so is written as it is. -/
theorem PrimaryHeader.InRange.plain_eq {header : PrimaryHeader} (inRange : header.InRange)
    (version : header.version = 0) (typeFlag : header.typeFlag = 0)
    (sequenceFlags : header.sequenceFlags = 3) :
    plain header.hasSecondaryHeader header.apid header.sequenceCount header.lengthField =
      header := by
  have apid := Nat.mod_eq_of_lt inRange.apid
  have sequenceCount := Nat.mod_eq_of_lt inRange.sequenceCount
  obtain ⟨first, second, flag, apid, third, count, field⟩ := header
  obtain rfl : first = 0 := version
  obtain rfl : second = 0 := typeFlag
  obtain rfl : third = 3 := sequenceFlags
  rw [plain, apid, sequenceCount]

namespace PacketDraft

/-- The most user data that the packet can carry. -/
def room (draft : PacketDraft) : Nat :=
  match draft.time42 with
  | some _ => PacketField.mostUserData
  | none => 65536

/-- The user data of the packet as it is written: a zero byte where there is nothing else to follow
the primary header. -/
def payload (draft : PacketDraft) : Bytes :=
  if draft.time42 = none ∧ draft.userData = [] then [0] else draft.userData

/-- The length of both headers. -/
def headersLength (timed : Bool) : Nat :=
  if timed then PacketField.headerLength + PacketField.timeLength else PacketField.headerLength

/-- The primary header of the packet. -/
def header (draft : PacketDraft) : PrimaryHeader :=
  .plain draft.time42.isSome draft.apid draft.sequenceCount (draft.body.length - 1)

variable (draft : PacketDraft)

theorem body_eq :
    draft.body = (draft.time42.elim [] (ByteOrder.spell .mostFirst PacketField.timeLength)) ++
      draft.payload := by
  obtain ⟨apid, count, time42, userData⟩ := draft
  cases time42 with
  | some time42 =>
    have plain : payload ⟨apid, count, some time42, userData⟩ = userData :=
      if_neg fun absent => Option.some_ne_none _ absent.1
    rw [plain]
    rfl
  | none => cases userData <;> rfl

theorem body_length_pos : 0 < draft.body.length := by
  rw [body]
  cases draft.time42 with
  | some time42 =>
    rw [List.length_append, ByteOrder.length_spell]
    exact Nat.add_pos_left (by decide) _
  | none =>
    cases draft.userData with
    | nil => exact Nat.zero_lt_one
    | cons byte more => exact Nat.succ_pos _

/-- The body can be counted exactly when the user data has room. -/
theorem body_length_le_iff : draft.body.length ≤ 65536 ↔ draft.userData.length ≤ draft.room := by
  rw [body, room]
  cases draft.time42 with
  | some time42 =>
    simp only [List.length_append, ByteOrder.length_spell, PacketField.timeLength,
      PacketField.mostUserData]
    omega
  | none =>
    cases draft.userData with
    | nil => decide
    | cons byte more => exact Iff.rfl

/-- **A built packet is its header and its body**; there is none when the length field cannot count
the body. -/
theorem build_eq :
    draft.build = if draft.userData.length ≤ draft.room then .ok (draft.header.encode ++ draft.body)
      else .error (.packetTooLong draft.body.length) := by
  rw [build, PacketField.lengthFieldOf]
  simp only [← draft.body_length_le_iff]
  split
  · rw [header, PrimaryHeader.encode_plain]
    rfl
  · rfl

variable {draft}

theorem header_inRange (fits : draft.userData.length ≤ draft.room) : draft.header.InRange where
  version := Nat.zero_lt_succ _
  typeFlag := Nat.zero_lt_succ _
  apid := Nat.mod_lt _ (by decide)
  sequenceFlags := Nat.lt_succ_self 3
  sequenceCount := Nat.mod_lt _ (by decide)
  lengthField := by
    have counted := draft.body_length_le_iff.mpr fits
    have some := draft.body_length_pos
    show draft.body.length - 1 < 0x10000
    omega

/-! ### Reading what was built -/

/-- What is read off the bytes of a packet is what it was built from. -/
structure ReadsBack (draft : PacketDraft) (bytes : Bytes) (packet : Packet) : Prop where
  decoded : Packet.decode? bytes = some packet
  data : packet.data = bytes
  version : packet.header.version = 0
  typeFlag : packet.header.typeFlag = 0
  sequenceFlags : packet.header.sequenceFlags = 3
  apid : packet.header.apid = draft.apid % 2 ^ 11
  sequenceCount : packet.header.sequenceCount = draft.sequenceCount % 2 ^ 14
  totalLength : packet.header.totalLength = bytes.length
  hasSecondaryHeader : packet.header.hasSecondaryHeader = draft.time42.isSome
  timeField : PacketField.time42? bytes = some (draft.time42.getD 0 % 2 ^ 48)
  time42 : packet.time42 = draft.time42.getD 0 % 2 ^ 48
  userData : bytes.drop (headersLength draft.time42.isSome) = draft.payload
  /-- The fields that are read one by one say the same. -/
  readOff : packet.header.ReadOff bytes

/-- The time of a packet that is written with a secondary header. -/
theorem time42?_encode {header : PrimaryHeader} (inRange : header.InRange)
    (set : header.hasSecondaryHeader = true) (time42 : Nat) (userData : Bytes) :
    PacketField.time42? (header.encode ++
        (ByteOrder.spell .mostFirst PacketField.timeLength time42 ++ userData)) =
      some (time42 % 2 ^ 48) := by
  have read := Word.u123456.read?_spell header.encode time42 userData
  rw [List.append_assoc, PrimaryHeader.length_encode] at read
  exact (PrimaryHeader.time42?_of_set (PrimaryHeader.decode?_encode inRange _) set).trans read

/-- The header of a built packet declares its length. -/
theorem totalLength_header (draft : PacketDraft) :
    draft.header.totalLength = (draft.header.encode ++ draft.body).length := by
  have some := draft.body_length_pos
  rw [List.length_append, PrimaryHeader.length_encode]
  show draft.body.length - 1 + PacketField.headerLength + 1 = _
  omega

/-- The time of a built packet is the one it was built from, or 0. -/
theorem time42?_built (inRange : draft.header.InRange) :
    PacketField.time42? (draft.header.encode ++ draft.body) =
      some (draft.time42.getD 0 % 2 ^ 48) := by
  cases timed : draft.time42 with
  | some time42 =>
    rw [body_eq, timed, Option.elim_some, time42?_encode inRange (congrArg Option.isSome timed)]
    rfl
  | none =>
    exact PrimaryHeader.time42?_of_clear (PrimaryHeader.decode?_encode inRange _)
      (congrArg Option.isSome timed)

/-- The user data of a built packet follows its headers. -/
theorem drop_built (draft : PacketDraft) :
    (draft.header.encode ++ draft.body).drop (headersLength draft.time42.isSome) =
      draft.payload := by
  rw [body_eq, ← List.append_assoc]
  apply List.drop_left'
  rw [List.length_append, PrimaryHeader.length_encode]
  cases draft.time42 with
  | some time42 =>
    rw [Option.elim_some, ByteOrder.length_spell]
    rfl
  | none => rfl

/-- **What is read off a built packet is what it was built from.** -/
theorem exists_readsBack (fits : draft.userData.length ≤ draft.room) :
    ∃ bytes packet, draft.build = .ok bytes ∧ draft.ReadsBack bytes packet := by
  have inRange := header_inRange fits
  have decoded := PrimaryHeader.decode?_encode inRange draft.body
  have total := draft.totalLength_header
  have whole := Packet.decode?_of_totalLength decoded (Nat.le_of_eq total)
  rw [total, List.take_length] at whole
  refine ⟨draft.header.encode ++ draft.body, ⟨draft.header, draft.header.encode ++ draft.body, 0⟩,
    draft.build_eq.trans (if_pos fits), ?_⟩
  exact {
    decoded := whole
    data := rfl
    version := rfl
    typeFlag := rfl
    sequenceFlags := rfl
    apid := rfl
    sequenceCount := rfl
    totalLength := total
    hasSecondaryHeader := rfl
    timeField := time42?_built inRange
    time42 := congrArg (Option.getD · 0) (time42?_built inRange)
    userData := draft.drop_built
    readOff := PrimaryHeader.readOff_of_decode? decoded }

end PacketDraft

/-! ### Building what was read -/

namespace Packet

/-- What a packet was built from, as far as it can be read off it. -/
def draft (packet : Packet) : PacketDraft where
  apid := packet.header.apid
  sequenceCount := packet.header.sequenceCount
  time42 := if packet.header.hasSecondaryHeader then some packet.time42 else none
  userData := packet.data.drop (PacketDraft.headersLength packet.header.hasSecondaryHeader)

/-- A packet of the kind that is built: version 0, telemetry, not part of a group, and with a whole
secondary header if it says that it has one. -/
structure IsPlain (packet : Packet) : Prop where
  version : packet.header.version = 0
  typeFlag : packet.header.typeFlag = 0
  sequenceFlags : packet.header.sequenceFlags = 3
  secondaryHeader : packet.header.hasSecondaryHeader = true →
    PacketField.headerLength + PacketField.timeLength ≤ packet.data.length

/-- What follows the primary header of a packet is the body of what was read off it. -/
theorem body_draft {packet : Packet}
    (decoded : PrimaryHeader.decode? packet.data = some packet.header)
    (longer : PacketField.headerLength < packet.data.length) (plain : packet.IsPlain) :
    packet.draft.body = packet.data.drop PacketField.headerLength := by
  cases flag : packet.header.hasSecondaryHeader with
  | true =>
    obtain ⟨time42, read⟩ := Word.u123456.exists_read? packet.data PacketField.headerLength
      (plain.secondaryHeader flag)
    have time : packet.time42 = time42 := by
      rw [Packet.time42, PrimaryHeader.time42?_of_set decoded flag]
      exact congrArg (Option.getD · 0) read
    have timed : packet.draft.time42 = some time42 := by
      rw [draft, if_pos flag, time]
    have userData : packet.draft.userData =
        (packet.data.drop PacketField.headerLength).drop PacketField.timeLength := by
      rw [draft, flag, List.drop_drop]
      rfl
    have written := Word.take_of_read? read
    rw [PacketDraft.body, timed, userData]
    show ByteOrder.spell Word.u123456.order Word.u123456.width time42 ++ _ = _
    rw [← written]
    exact List.take_append_drop _ _
  | false =>
    have untimed : packet.draft.time42 = none := by
      rw [draft, if_neg (by rw [flag]; exact Bool.false_ne_true)]
    have userData : packet.draft.userData = packet.data.drop PacketField.headerLength := by
      rw [draft, flag]
      rfl
    have some : (packet.data.drop PacketField.headerLength).isEmpty = false := by
      rw [List.isEmpty_eq_false_iff, Ne, List.drop_eq_nil_iff]
      exact Nat.not_le.mpr longer
    rw [PacketDraft.body, untimed, userData, some]
    rfl

/-- The header of a packet of the kind that is built. -/
theorem header_draft {packet : Packet}
    (decoded : PrimaryHeader.decode? packet.data = some packet.header)
    (whole : packet.header.totalLength = packet.data.length) (plain : packet.IsPlain) :
    packet.draft.header = packet.header := by
  have inRange := PrimaryHeader.inRange_of_decode? decoded
  have longer : PacketField.headerLength < packet.data.length :=
    whole ▸ PacketField.headerLength_lt_totalLength?
      (PrimaryHeader.readOff_of_decode? decoded).totalLength
  have field : packet.draft.body.length - 1 = packet.header.lengthField := by
    rw [body_draft decoded longer plain, List.length_drop, ← whole, PrimaryHeader.totalLength]
    omega
  have timed : packet.draft.time42.isSome = packet.header.hasSecondaryHeader := by
    rw [draft]
    cases packet.header.hasSecondaryHeader <;> rfl
  rw [PacketDraft.header, field, timed]
  exact inRange.plain_eq plain.version plain.typeFlag plain.sequenceFlags

/-- **A packet of the kind that is built is built again from what was read off it.** -/
theorem build_draft {bytes : Bytes} (whole : IsPacket bytes) (more : Bytes) :
    ∃ packet, Packet.decode? (bytes ++ more) = some packet ∧ packet.data = bytes ∧
      (packet.IsPlain → packet.draft.build = .ok bytes) := by
  have longer := whole.headerLength_lt
  obtain ⟨header, decoded⟩ := Option.isSome_iff_exists.mp
    ((PrimaryHeader.isSome_decode? bytes).mpr (Nat.le_of_lt longer))
  have total : header.totalLength = bytes.length :=
    Option.some.inj ((PrimaryHeader.totalLength?_of_decode? decoded).symm.trans whole)
  have found := decode?_of_totalLength
    ((PrimaryHeader.decode?_append (Nat.le_of_lt longer) more).trans decoded)
    (by rw [total, List.length_append]; exact Nat.le_add_right _ _)
  rw [total, List.take_left] at found
  refine ⟨⟨header, bytes, 0⟩, found, rfl, fun plain => ?_⟩
  have body := @body_draft ⟨header, bytes, 0⟩ decoded longer plain
  have head := @header_draft ⟨header, bytes, 0⟩ decoded total plain
  have fits : (draft ⟨header, bytes, 0⟩).userData.length ≤ (draft ⟨header, bytes, 0⟩).room := by
    rw [← PacketDraft.body_length_le_iff, body, List.length_drop]
    exact Nat.sub_le_iff_le_add'.mpr whole.length_le
  rw [PacketDraft.build_eq, if_pos fits, head, body, ← PrimaryHeader.take_of_decode? decoded]
  exact congrArg Except.ok (List.take_append_drop _ _)

end Packet

/-! ### Fields written in any order -/

namespace PacketField

/-- Two steps that can change places. -/
def Interchange (first second : Bytes → Except Breach Bytes) : Prop :=
  ∀ bytes, (first bytes >>= second) = (second bytes >>= first)

instance : Std.Symm Interchange :=
  ⟨fun _ _ swap bytes => (swap bytes).symm⟩

theorem foldlM_cons_ok {step : Bytes → Except Breach Bytes}
    {steps : List (Bytes → Except Breach Bytes)} {bytes next : Bytes}
    (done : step bytes = .ok next) :
    (step :: steps).foldlM (fun buffer step => step buffer) bytes =
      steps.foldlM (fun buffer step => step buffer) next := by
  rw [List.foldlM_cons, done]
  rfl

/-- Steps that can change places pairwise can be taken in any order. -/
theorem foldlM_perm {steps order : List (Bytes → Except Breach Bytes)}
    (swap : steps.Pairwise Interchange) (perm : order.Perm steps) (bytes : Bytes) :
    order.foldlM (fun buffer step => step buffer) bytes =
      steps.foldlM (fun buffer step => step buffer) bytes := by
  have pairs := swap.forall_of_forall fun step _ bytes => rfl
  rw [List.foldlM_eq_foldl, List.foldlM_eq_foldl]
  refine (perm.symm.foldl_eq' (fun first here second there outcome => ?_) _).symm
  cases outcome with
  | error breach => rfl
  | ok bytes => exact pairs here there bytes

/-- The four writes that make up the headers of a packet. -/
def writes (apid sequenceCount userLength time42 : Nat) : List (Bytes → Except Breach Bytes) :=
  [fun bytes => writeApid bytes apid, fun bytes => writeSequenceCount bytes sequenceCount,
    fun bytes => writeDataLength bytes userLength, fun bytes => writeTime42 bytes time42]

/-- Writes to runs that do not meet can change places. -/
theorem interchange_of_apart {patch other : Bytes} {offset start : Nat}
    (apart : offset + patch.length ≤ start ∨ start + other.length ≤ offset) :
    Interchange (fun bytes => written (bytes.overwrite? offset patch))
      fun bytes => written (bytes.overwrite? start other) := by
  intro bytes
  have outcome (first : Option Bytes) (next : Bytes → Option Bytes) :
      (written first >>= fun bytes => written (next bytes)) = written (first.bind next) := by
    cases first <;> rfl
  rw [outcome, outcome, Bytes.overwrite?_comm bytes apart]

theorem writeDataLength_eq {userLength : Nat} (counted : userLength ≤ mostUserData)
    (bytes : Bytes) : writeDataLength bytes userLength = written
      (bytes.overwrite? 4 (ByteOrder.spell .mostFirst 2 (userLength + timeLength - 1))) := by
  have most : mostUserData + timeLength = 65536 := rfl
  have bound : ¬ sizeBound ≤ userLength + timeLength := by
    rw [sizeBound, Nat.one_shiftLeft]
    omega
  rw [writeDataLength, if_neg bound, lengthFieldOf, if_pos (by omega)]
  rfl

/-- A write continues what has been written in front. -/
theorem written_front {front patch bytes : Bytes} {offset : Nat} (next : Nat)
    (reached : front.length = offset) (further : offset + patch.length = next)
    (room : next ≤ bytes.length) :
    written ((front ++ bytes.drop offset).overwrite? offset patch) =
      .ok (front ++ patch ++ bytes.drop next) := by
  subst reached further
  rw [Bytes.overwrite?_front front patch (by rw [List.length_drop]; omega), List.drop_drop]
  rfl

variable {userLength : Nat} (counted : userLength ≤ mostUserData)
include counted

theorem pairwise_writes (apid sequenceCount time42 : Nat) :
    (writes apid sequenceCount userLength time42).Pairwise Interchange := by
  have lengthWrite : (fun bytes => writeDataLength bytes userLength) = _ :=
    funext (writeDataLength_eq counted)
  have runs : writes apid sequenceCount userLength time42 =
      [(0, identification apid true),
        (2, ByteOrder.spell .mostFirst 2 (sequenceWord sequenceCount)),
        (4, ByteOrder.spell .mostFirst 2 (userLength + timeLength - 1)),
        (6, ByteOrder.spell .mostFirst 6 time42)].map
        fun run bytes => written (bytes.overwrite? run.1 run.2) := by
    rw [writes, lengthWrite]
    rfl
  rw [runs, List.pairwise_map]
  refine List.Pairwise.imp (R := fun first second => first.1 + first.2.length ≤ second.1)
    (fun apart => interchange_of_apart (.inl apart)) ?_
  simp [identification]

/-- **The fields of the headers can be written in any order.** -/
theorem foldlM_writes {bytes : Bytes} (room : headerLength + timeLength ≤ bytes.length)
    (apid sequenceCount time42 : Nat) {order : List (Bytes → Except Breach Bytes)}
    (perm : order.Perm (writes apid sequenceCount userLength time42)) :
    order.foldlM (fun buffer write => write buffer) bytes =
      .ok ((PrimaryHeader.plain true apid sequenceCount (userLength + timeLength - 1)).encode ++
        ByteOrder.spell .mostFirst timeLength time42 ++
        bytes.drop (headerLength + timeLength)) := by
  have apart := pairwise_writes counted apid sequenceCount time42
  have twelve : 12 ≤ bytes.length := room
  have first : writeApid bytes apid = .ok (identification apid true ++ bytes.drop 2) :=
    congrArg written
      (Bytes.overwrite?_front [] (identification apid true) (Nat.le_of_add_left_le twelve))
  have second : writeSequenceCount (identification apid true ++ bytes.drop 2) sequenceCount = _ :=
    written_front 4 rfl rfl (by omega)
  have third := (writeDataLength_eq counted (identification apid true ++
    ByteOrder.spell .mostFirst 2 (sequenceWord sequenceCount) ++ bytes.drop 4)).trans
      (written_front 6 rfl rfl (by omega))
  have fourth : writeTime42 (identification apid true ++
      ByteOrder.spell .mostFirst 2 (sequenceWord sequenceCount) ++
      ByteOrder.spell .mostFirst 2 (userLength + timeLength - 1) ++ bytes.drop 6) time42 = _ :=
    written_front 12 rfl rfl twelve
  rw [foldlM_perm apart perm, PrimaryHeader.encode_plain, writes, foldlM_cons_ok first,
    foldlM_cons_ok second, foldlM_cons_ok third, foldlM_cons_ok fourth]
  rfl

end PacketField

/-! ### Both ways -/

namespace PacketDraft

/-- **Writing packets and reading them are inverse.** Whatever the APID, the sequence count and the
time are, a packet can be built as long as the user data has room, and what is read off its bytes is
what it was built from; with more user data there is no packet. Every packet of this kind, whatever
follows it in the buffer, is built again from what is read off it. And the fields of the headers,
written into a buffer one by one in any order, leave the same bytes in it. -/
theorem write_read_inverse :
    (∀ draft : PacketDraft, draft.userData.length ≤ draft.room →
      ∃ bytes packet, draft.build = .ok bytes ∧ draft.ReadsBack bytes packet) ∧
    (∀ draft : PacketDraft, draft.room < draft.userData.length →
      draft.build = .error (.packetTooLong draft.body.length)) ∧
    (∀ bytes more, IsPacket bytes → ∃ packet, Packet.decode? (bytes ++ more) = some packet ∧
      packet.data = bytes ∧ (packet.IsPlain → packet.draft.build = .ok bytes)) ∧
    ∀ (bytes : Bytes) (apid sequenceCount userLength time42 : Nat), 12 ≤ bytes.length →
      userLength ≤ 65530 → ∀ order : List (Bytes → Except Breach Bytes),
        order.Perm (PacketField.writes apid sequenceCount userLength time42) →
          order.foldlM (fun buffer write => write buffer) bytes =
            .ok ((PrimaryHeader.plain true apid sequenceCount (userLength + 6 - 1)).encode ++
              ByteOrder.spell .mostFirst 6 time42 ++ bytes.drop 12) := by
  refine ⟨fun draft => exists_readsBack, fun draft long => ?_,
    fun bytes more whole => Packet.build_draft whole more, ?_⟩
  · rw [build_eq, if_neg (Nat.not_le.mpr long)]
  · intro bytes apid sequenceCount userLength time42 room counted order perm
    exact PacketField.foldlM_writes counted room apid sequenceCount time42 perm

/-- A draft whose fields are all too large for their bits. -/
def wideDraft : PacketDraft where
  apid := 0xf864
  sequenceCount := 0xc001
  time42 := some (2 ^ 48 + 5)
  userData := [1, 2]

/-- A draft with one byte more than there is room for. -/
def longDraft : PacketDraft where
  apid := 1
  userData := List.replicate 65531 0

/-- A packet with a secondary header and one byte of user data. -/
def timedPacket : Bytes :=
  [8, 100, 192, 1, 0, 6, 0, 0, 1, 0, 128, 0, 255]

theorem write_read_wideDraft :
    (∃ bytes packet, wideDraft.build = .ok bytes ∧ wideDraft.ReadsBack bytes packet) ∧
      longDraft.build = .error (.packetTooLong longDraft.body.length) ∧
      (∃ packet, Packet.decode? (timedPacket ++ [7]) = some packet ∧ packet.IsPlain ∧
        packet.draft.build = .ok timedPacket) ∧
      (PacketField.writes 100 1 1 5).reverse.foldlM (fun buffer write => write buffer) timedPacket =
        .ok [8, 100, 192, 1, 0, 6, 0, 0, 0, 0, 0, 5, 255] := by
  obtain ⟨built, tooLong, again, anyOrder⟩ := write_read_inverse
  refine ⟨built wideDraft (by decide), tooLong longDraft ?_, ?_, ?_⟩
  · show 65530 < (List.replicate 65531 _).length
    rw [List.length_replicate]
    exact Nat.lt_succ_self _
  · obtain ⟨packet, found, data, rebuilt⟩ := again timedPacket [7] (by decide)
    have plain : packet.IsPlain := by
      obtain rfl : _ = packet := Option.some.inj found
      exact ⟨rfl, rfl, rfl, fun _ => by decide⟩
    exact ⟨packet, found, plain, rebuilt plain⟩
  · exact anyOrder timedPacket 100 1 1 5 (by decide) (by decide) _ (List.reverse_perm _)

end PacketDraft

end Downlink
