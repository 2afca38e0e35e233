/-
**A cursor in a zone.**

A machine takes packets from a zone with a cursor: it copies a header, then as many bytes as the
header declares, gives out what it has copied, and goes on behind it. Here are these steps with all
their checks. They have the answers of the ones that take a zone in one go:

* `checkedReset_eq`, `checkedAppend_eq`, `checkedEmit_eq`: what is done with the pending packet;
* `checkedExtract_eq`: the cursor stays inside the frame, whatever lengths the packets declare.
-/

import Downlink.Proofs.Checks
import Downlink.Proofs.Frame.Counts

namespace Downlink.Reassembler

open ReassemblyStats (counts)

/-! ### The steps -/

/-- Gives up the pending packet. -/
def checkedReset (reassembler : Reassembler) : Except Breach Reassembler := do
  Breach.overflow.ensure (reassembler.stats.bytesDiscarded + reassembler.pending.length < sizeBound)
  return reassembler.reset

/-- Continues the pending packet, and tells whether it has grown no longer than any packet. -/
def checkedAppend (reassembler : Reassembler) (bytes : Bytes) :
    Except Breach (Reassembler × Bool) := do
  Breach.overflow.ensure (reassembler.pending.length + bytes.length < sizeBound)
  if PacketField.longestPacket < reassembler.pending.length + bytes.length then
    return (← reassembler.checkedReset, false)
  else return ({ reassembler with pending := reassembler.pending ++ bytes }, true)

/-- Reads what the report of a packet of the wrong length names: its application process, and its
time, as far as there are enough bytes for one. -/
def checkedReport (view : PacketView) : Except Breach Unit := do
  let _ ← Breach.outOfBounds.ensureSome (PacketField.apid? view.bytes)
  if PacketField.headerLength + PacketField.timeLength ≤ view.bytes.length then
    let _ ← Breach.outOfBounds.ensureSome (PacketField.time42? view.bytes)

/-- Gives out the pending packet. -/
def checkedEmit (reassembler : Reassembler) (spacecraft : Nat) :
    Except Breach (Reassembler × List FramedPacket) := do
  let stats := reassembler.stats
  match PacketView.of? reassembler.pending with
  | none =>
    Breach.overflow.ensure (stats.lengthMismatches + 1 < sizeBound)
    Breach.overflow.ensure (stats.bytesDiscarded + reassembler.pending.length < sizeBound)
  | some view =>
    if view.totalLength ≠ reassembler.pending.length then
      checkedReport view
      Breach.overflow.ensure (stats.lengthMismatches + 1 < sizeBound)
    Breach.overflow.ensure (stats.packets + 1 < sizeBound)
  return reassembler.emit spacecraft

/-- Takes packets from the bytes between a cursor, at which a packet starts, and the end of the
zone. -/
def checkedExtract (frame : Bytes) (spacecraft stop : Nat) (reassembler : Reassembler)
    (cursor : Nat) : Except Breach (Reassembler × List FramedPacket) := do
  Breach.overflow.ensure (cursor ≤ stop)
  if stop - cursor < PacketField.headerLength then
    let rest ← frame.checkedBetween cursor stop
    let (held, _) ← reassembler.checkedAppend rest
    return (held, [])
  else
    let body := cursor + PacketField.headerLength
    Breach.overflow.ensure (body < sizeBound)
    let header ← frame.checkedBetween cursor body
    let field ← Breach.outOfBounds.ensureSome (PacketField.lengthField? header)
    let started := { reassembler with pending := header }
    Breach.overflow.ensure (body ≤ stop)
    if stop - body = 0 then return (started, [])
    else if stop - body < field + 1 then
      let rest ← frame.checkedBetween body stop
      let (held, _) ← started.checkedAppend rest
      return (held, [])
    else
      let next := body + (field + 1)
      Breach.overflow.ensure (next < sizeBound)
      let others ← frame.checkedBetween body next
      let (emptied, packets) ←
        { started with pending := header ++ others }.checkedEmit spacecraft
      if stop - body = field + 1 then return (emptied, packets)
      else
        let (held, morePackets) ← checkedExtract frame spacecraft stop emptied next
        return (held, packets ++ morePackets)
termination_by stop - cursor

variable {reassembler : Reassembler} {spacecraft : Nat}

/-! ### The pending packet -/

theorem checkedReset_eq (fits : reassembler.reset.stats.Fits) :
    reassembler.checkedReset = .ok reassembler.reset :=
  Breach.ensure_bind (fits ReassemblyStats.bytesDiscarded (by simp [counts])) _

theorem checkedAppend_eq {bytes : Bytes}
    (bounded : reassembler.pending.length ≤ PacketField.longestPacket)
    (short : bytes.length < bufferBound) (fits : (reassembler.append bytes).stats.Fits) :
    reassembler.checkedAppend bytes = .ok (reassembler.append bytes,
      decide (reassembler.pending.length + bytes.length ≤ PacketField.longestPacket)) := by
  have sum : reassembler.pending.length + bytes.length < sizeBound := by
    have room : PacketField.longestPacket + bufferBound < sizeBound := by decide
    omega
  rw [checkedAppend, Breach.ensure_bind sum]
  by_cases long : PacketField.longestPacket < reassembler.pending.length + bytes.length
  · rw [append_overflow _ long] at fits ⊢
    rw [if_pos long, checkedReset_eq fits, decide_eq_false (Nat.not_le.mpr long)]
    rfl
  · rw [append_fits _ (Nat.not_lt.mp long), if_neg long, decide_eq_true (Nat.not_lt.mp long)]
    rfl

theorem checkedReport_eq (view : PacketView) : checkedReport view = .ok () := by
  have header := view.headerLength_le
  have named : 0 + Word.u12.width ≤ view.bytes.length := Nat.le_trans (by decide) header
  have flagged : 0 + Word.u1.width ≤ view.bytes.length := Nat.le_trans (by decide) header
  obtain ⟨word, readWord⟩ := Word.u12.exists_read? view.bytes 0 named
  obtain ⟨byte, readByte⟩ := Word.u1.exists_read? view.bytes 0 flagged
  have apid : PacketField.apid? view.bytes = some (word % 0x800) := by
    rw [PacketField.apid?, PacketField.streamId?, readWord, Option.map_some]
  rw [checkedReport, Breach.ensureSome_bind apid]
  by_cases timed : PacketField.headerLength + PacketField.timeLength ≤ view.bytes.length
  · obtain ⟨time, readTime⟩ := Word.u123456.exists_read? view.bytes PacketField.headerLength timed
    have time42 : PacketField.time42? view.bytes =
        some (if byte / 8 % 2 == 1 then time else 0) := by
      simp only [PacketField.time42?, PacketField.hasSecondaryHeader?, readByte, Option.map_some,
        Option.bind_eq_bind, Option.bind_some, PacketField.timeBytes?, readTime]
      split
      · rfl
      · rfl
    rw [if_pos timed, Breach.ensureSome_bind time42]
    rfl
  · rw [if_neg timed]
    rfl

theorem checkedEmit_eq (fits : (reassembler.emit spacecraft).1.stats.Fits) :
    reassembler.checkedEmit spacecraft = .ok (reassembler.emit spacecraft) := by
  have mismatches := fits ReassemblyStats.lengthMismatches (by simp [counts])
  unfold checkedEmit
  cases made : PacketView.of? reassembler.pending with
  | none =>
    have discarded := fits ReassemblyStats.bytesDiscarded (by simp [counts])
    rw [emit_short _ _ ((PacketView.of?_eq_none_iff _).mp made)] at mismatches discarded
    dsimp only
    rw [Breach.ensure_bind mismatches, Breach.ensure_bind discarded]
    rfl
  | some view =>
    have packets := fits ReassemblyStats.packets (by simp [counts])
    have bytes := PacketView.bytes_of? made
    obtain ⟨packet, emitted, _⟩ := reassembler.emit_long spacecraft (bytes ▸ view.headerLength_le)
    rw [emitted] at mismatches packets
    dsimp only
    by_cases whole : view.totalLength = reassembler.pending.length
    · rw [if_neg (not_not_intro whole), Breach.ensure_bind packets]
      rfl
    · have invalid : ¬ IsPacket reassembler.pending := by
        rw [IsPacket, ← bytes, view.totalLength?_bytes, bytes]
        exact fun same => whole (Option.some.inj same)
      rw [if_neg invalid] at mismatches
      rw [if_pos whole, checkedReport_eq, ok_bind, Breach.ensure_bind mismatches,
        Breach.ensure_bind packets]
      rfl

/-! ### The cursor -/

/-- Bytes that do not begin with a whole packet are held, wherever they are cut. -/
theorem extract_held {frame : Bytes} {cursor body stop : Nat} (forward : cursor ≤ body)
    (more : body ≤ stop)
    (short : ∀ total, PacketField.totalLength? (frame.between cursor stop) = some total →
      (frame.between cursor stop).length < total) (reassembler : Reassembler) (spacecraft : Nat) :
    ({ reassembler with pending := frame.between cursor body }.append (frame.between body stop),
        []) = reassembler.extract spacecraft (frame.between cursor stop) := by
  have fits := (Splits.nil short).length_rest_le
  rw [← Bytes.between_append forward more, List.length_append] at fits
  rw [extract_rest _ _ short, append_fits _ fits]
  exact congrArg (fun pending => ({ reassembler with pending }, []))
    (Bytes.between_append forward more)

theorem extract_nil (nothing : reassembler.pending = []) :
    reassembler.extract spacecraft [] = (reassembler, []) := by
  have splits : Splits [] [] [] := Splits.of_isBeginning isBeginning_nil
  rw [extract_rest _ _ splits.short, ← nothing]

theorem emit_pending (reassembler : Reassembler) (spacecraft : Nat) :
    (reassembler.emit spacecraft).1.pending = [] := by
  unfold emit
  split
  · rfl
  · rfl

section Cursor

variable {frame : Bytes} {cursor body stop field : Nat} (inside : stop ≤ frame.length)
include inside

/-- With fewer bytes than a header before it, the end of the zone is reached. -/
theorem checkedExtract_tail (short : frame.length < bufferBound) (forward : cursor ≤ stop)
    (tail : stop - cursor < PacketField.headerLength) (nothing : reassembler.pending = [])
    (fits : (reassembler.extract spacecraft (frame.between cursor stop)).1.stats.Fits) :
    checkedExtract frame spacecraft stop reassembler cursor =
      .ok (reassembler.extract spacecraft (frame.between cursor stop)) := by
  have length : (frame.between cursor stop).length = stop - cursor := Bytes.length_between inside
  have undeclared : ∀ total, PacketField.totalLength? (frame.between cursor stop) = some total →
      (frame.between cursor stop).length < total := by
    rw [(PacketField.totalLength?_eq_none_iff _).mpr (length ▸ tail)]
    exact fun _ some => nomatch some
  have held := extract_held (Nat.le_refl cursor) forward undeclared reassembler spacecraft
  rw [Bytes.between_self, ← nothing] at held
  have empty : reassembler.pending.length ≤ PacketField.longestPacket := by
    rw [nothing]
    exact Nat.zero_le _
  rw [← held] at fits ⊢
  rw [checkedExtract, Breach.ensure_bind forward, if_pos tail,
    Bytes.checkedBetween_eq forward inside, ok_bind, checkedAppend_eq empty (by omega) fits]
  rfl

variable (start : cursor + PacketField.headerLength = body) (room : body ≤ stop)
include start room

/-- At the cursor there is a header. -/
theorem exists_lengthField? : (frame.between cursor body).length = PacketField.headerLength ∧
    ∃ field, PacketField.lengthField? (frame.between cursor body) = some field := by
  have header : (frame.between cursor body).length = PacketField.headerLength := by
    rw [Bytes.length_between (by omega)]
    omega
  obtain ⟨total, declared⟩ := Option.isSome_iff_exists.mp
    ((PacketField.isSome_totalLength? _).mpr (Nat.le_of_eq header.symm))
  obtain ⟨field, read, _⟩ := Option.map_eq_some_iff.mp declared
  exact ⟨header, field, read⟩

/-- The header declares so many bytes, whatever follows it. -/
theorem totalLength?_between
    (read : PacketField.lengthField? (frame.between cursor body) = some field) :
    PacketField.totalLength? (frame.between cursor stop) =
      some (field + PacketField.headerLength + 1) := by
  obtain ⟨header, _⟩ := exists_lengthField? inside start room
  have declared := PacketField.totalLength?_append (Nat.le_of_eq header.symm)
    (frame.between body stop)
  rw [Bytes.between_append (by omega) room] at declared
  rw [declared, PacketField.totalLength?, read, Option.map_some]

/-- A packet that ends behind the zone is held. -/
theorem extract_begun
    (read : PacketField.lengthField? (frame.between cursor body) = some field)
    (last : stop - body < field + 1) (reassembler : Reassembler) (spacecraft : Nat) :
    ({ reassembler with pending := frame.between cursor body }.append (frame.between body stop),
        []) = reassembler.extract spacecraft (frame.between cursor stop) := by
  refine extract_held (by omega) room (fun total some => ?_) reassembler spacecraft
  rw [totalLength?_between inside start room read] at some
  obtain rfl := Option.some.inj some
  rw [Bytes.length_between inside]
  omega

omit room in
/-- A packet that ends in the zone is given out before the cursor goes on. -/
theorem extract_whole {next : Nat} (finish : body + (field + 1) = next) (ends : next ≤ stop)
    (read : PacketField.lengthField? (frame.between cursor body) = some field)
    (reassembler : Reassembler) (spacecraft : Nat) :
    reassembler.extract spacecraft (frame.between cursor stop) =
      let emptied := { reassembler with pending := frame.between cursor next }.emit spacecraft
      let extracted := emptied.1.extract spacecraft (frame.between next stop)
      (extracted.1, emptied.2 ++ extracted.2) := by
  have insideNext := Nat.le_trans ends inside
  have packet : IsPacket (frame.between cursor next) := by
    rw [IsPacket, totalLength?_between insideNext start (by omega) read,
      Bytes.length_between insideNext]
    exact congrArg some (by omega)
  have taken := reassembler.extract_packet spacecraft (frame.between next stop) packet
  rw [Bytes.between_append (by omega) ends] at taken
  exact taken

end Cursor

/-- **The cursor stays inside the frame**, whatever lengths the packets declare, and takes the
packets that the bytes behind it are split into. -/
theorem checkedExtract_eq {frame : Bytes} {stop : Nat} (inside : stop ≤ frame.length)
    (short : frame.length < bufferBound) (spacecraft : Nat) {cursor : Nat} (forward : cursor ≤ stop)
    {reassembler : Reassembler} (nothing : reassembler.pending = [])
    (fits : (reassembler.extract spacecraft (frame.between cursor stop)).1.stats.Fits) :
    checkedExtract frame spacecraft stop reassembler cursor =
      .ok (reassembler.extract spacecraft (frame.between cursor stop)) := by
  -- Each packet moves the cursor towards the end of the zone.
  induction left : stop - cursor using Nat.strongRecOn generalizing cursor reassembler with
  | ind left ih =>
  subst left
  by_cases tail : stop - cursor < PacketField.headerLength
  · exact checkedExtract_tail inside short forward tail nothing fits
  have bounds : bufferBound < sizeBound := by decide
  rw [checkedExtract, Breach.ensure_bind forward, if_neg tail]
  dsimp only
  generalize start : cursor + PacketField.headerLength = body
  have room : body ≤ stop := by omega
  obtain ⟨header, field, read⟩ := exists_lengthField? inside start room
  rw [Breach.ensure_bind (by omega), Bytes.checkedBetween_eq (by omega) (by omega), ok_bind,
    Breach.ensureSome_bind read, Breach.ensure_bind room]
  by_cases last : stop - body < field + 1
  · have begun := extract_begun inside start room read last reassembler spacecraft
    by_cases none : stop - body = 0
    · obtain rfl : body = stop := by omega
      rw [if_pos none, ← begun, Bytes.between_self, append_fits _ (by rw [header]; decide),
        List.append_nil]
      rfl
    · rw [← begun] at fits ⊢
      rw [if_neg none, if_pos last, Bytes.checkedBetween_eq room inside, ok_bind,
        checkedAppend_eq (by rw [header]; decide) (by rw [Bytes.length_between inside]; omega) fits]
      rfl
  · generalize finish : body + (field + 1) = next
    have ends : next ≤ stop := by omega
    rw [extract_whole inside start finish ends read] at fits ⊢
    have emptied :=
      emit_pending { reassembler with pending := frame.between cursor next } spacecraft
    rw [if_neg (by omega), if_neg last, Breach.ensure_bind (by omega),
      Bytes.checkedBetween_eq (by omega) (by omega), ok_bind,
      Bytes.between_append (by omega) (by omega),
      checkedEmit_eq (fits.of_grows (extract_grows _ _ _)), ok_bind]
    dsimp only
    by_cases final : stop - body = field + 1
    · obtain rfl : next = stop := by omega
      rw [if_pos final, Bytes.between_self, extract_nil emptied, List.append_nil]
      rfl
    · rw [if_neg final, ih (stop - next) (by omega) ends emptied fits rfl]
      rfl

end Downlink.Reassembler
