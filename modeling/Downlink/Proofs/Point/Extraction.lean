/-
**What a point is read as.**

The bytes of a field are a word (`FieldType.word?`), unless they are a text. The number of this word
is taken as it is, or in two's complement, or some of its bits are (`FieldType.understood`). There is
a raw value for every width of a number, and what is understood always fits the one that is made;
which of them that is depends on the type of the field alone (`FieldType.rawKind`).

* `FieldType.decode_held`: the raw value of a field holds what its number is understood as;
* `FieldType.kind_of_decode`: it is of the kind that the field type gives;
* `RawValue.eq_of_held`: both together tell which number it is;
* `FieldType.decode_error_iff`: a field is refused only as a bit field that does not fit;
* `FieldType.textOf_append_zero`, `FieldType.textOf_utf8`: what is read of a text;
* `PointDefinition.rawValue_readsField`: which points have a raw value, what it holds, and that only
  the bytes of the field count for it.
-/

import Downlink.Proofs.BitField
import Downlink.Proofs.Point.Checked
import Downlink.Proofs.Text.Utf8
import Mathlib.Data.List.TakeWhile

namespace Downlink

/-! ### Integers that raw values hold -/

/-- The kinds of raw values. -/
inductive RawKind
  | int8
  | int16
  | int32
  | int64
  | uint8
  | uint16
  | uint32
  | uint64
  | single
  | double
  | text
  | bytes
  deriving DecidableEq, Repr

namespace RawValue

/-- The kind of a raw value. -/
def kind : RawValue → RawKind
  | int8 _ => .int8
  | int16 _ => .int16
  | int32 _ => .int32
  | int64 _ => .int64
  | uint8 _ => .uint8
  | uint16 _ => .uint16
  | uint32 _ => .uint32
  | uint64 _ => .uint64
  | single _ => .single
  | double _ => .double
  | text _ => .text
  | bytes _ => .bytes

/-- The integer that a raw value holds, or that encodes it when it is a floating-point number. Texts
and bytes hold none. -/
def held? : RawValue → Option Int
  | int8 value => some value.toInt
  | int16 value => some value.toInt
  | int32 value => some value.toInt
  | int64 value => some value.toInt
  | uint8 value => some value.toNat
  | uint16 value => some value.toNat
  | uint32 value => some value.toNat
  | uint64 value => some value.toNat
  | single encoding => some encoding.toNat
  | double encoding => some encoding.toNat
  | text _ | bytes _ => none

section Unsigned

variable {number : Nat}

theorem held_uint8 (fits : number < 2 ^ 8) : (uint8 (UInt8.ofNat number)).held? = some ↑number :=
  congrArg (some ∘ Nat.cast) (UInt8.toNat_ofNat_of_lt' fits)

theorem held_uint16 (fits : number < 2 ^ 16) :
    (uint16 (UInt16.ofNat number)).held? = some ↑number :=
  congrArg (some ∘ Nat.cast) (UInt16.toNat_ofNat_of_lt' fits)

theorem held_uint32 (fits : number < 2 ^ 32) :
    (uint32 (UInt32.ofNat number)).held? = some ↑number :=
  congrArg (some ∘ Nat.cast) (UInt32.toNat_ofNat_of_lt' fits)

theorem held_uint64 (fits : number < 2 ^ 64) :
    (uint64 (UInt64.ofNat number)).held? = some ↑number :=
  congrArg (some ∘ Nat.cast) (UInt64.toNat_ofNat_of_lt' fits)

end Unsigned

section Signed

variable {value : Int}

theorem held_int8 (bounds : -2 ^ 7 ≤ value ∧ value < 2 ^ 7) :
    (int8 (Int8.ofInt value)).held? = some value :=
  congrArg some (Int8.toInt_ofInt_of_le bounds.1 bounds.2)

theorem held_int16 (bounds : -2 ^ 15 ≤ value ∧ value < 2 ^ 15) :
    (int16 (Int16.ofInt value)).held? = some value :=
  congrArg some (Int16.toInt_ofInt_of_le bounds.1 bounds.2)

theorem held_int32 (bounds : -2 ^ 31 ≤ value ∧ value < 2 ^ 31) :
    (int32 (Int32.ofInt value)).held? = some value :=
  congrArg some (Int32.toInt_ofInt_of_le bounds.1 bounds.2)

theorem held_int64 (bounds : -2 ^ 63 ≤ value ∧ value < 2 ^ 63) :
    (int64 (Int64.ofInt value)).held? = some value :=
  congrArg some (Int64.toInt_ofInt_of_le bounds.1 bounds.2)

end Signed

/-- A number is told by its kind and the integer that it holds. -/
theorem eq_of_held {first second : RawValue} {value : Int} (sameKind : first.kind = second.kind)
    (held : first.held? = some value) (others : second.held? = some value) : first = second := by
  have same : first.held? = second.held? := held.trans others.symm
  -- The kinds leave the cases in which both are made alike.
  cases first <;> cases second <;> cases sameKind
  case int8.int8 | int16.int16 | int32.int32 | int64.int64 =>
    simpa [held?, Int8.toInt_inj, Int16.toInt_inj, Int32.toInt_inj, Int64.toInt_inj] using same
  case uint8.uint8 | uint16.uint16 | uint32.uint32 | uint64.uint64 | single.single |
      double.double =>
    simpa [held?, UInt8.toNat_inj, UInt16.toNat_inj, UInt32.toNat_inj, UInt64.toNat_inj] using same
  case text.text | bytes.bytes => cases held

/-- What is made of an answer is of the kind that all raw values made of it are. -/
theorem kind_of_map {Value : Type} {answer : Except Error Value} {keep : Value → RawValue}
    {raw : RawValue} (made : answer.map keep = .ok raw) {kind : RawKind}
    (kept : ∀ value, (keep value).kind = kind) : raw.kind = kind := by
  cases answer with
  | error => cases made
  | ok value =>
    obtain rfl := Except.ok.inj made
    exact kept value

/-- An answer that holds an integer is a raw value. -/
theorem exists_of_held {answer : Except Breach (Except Error RawValue)} {value : Int}
    (held : answer.map (·.map held?) = .ok (.ok (some value))) :
    ∃ raw, answer = .ok (.ok raw) ∧ raw.held? = some value := by
  rcases answer with breach | error | raw
  case error => cases held
  case ok.error => cases held
  case ok.ok => exact ⟨raw, rfl, Except.ok.inj (Except.ok.inj held)⟩

end RawValue

/-! ### Bits that raw values hold -/

namespace BitField

variable {field : BitField}

/-- A raw value that keeps all numbers that the container can hold keeps the bits of a field. -/
theorem extract_held {keep : UInt32 → RawValue}
    (keeps : ∀ bits : UInt32, bits.toNat < 2 ^ field.width → (keep bits).held? = some ↑bits.toNat)
    (container : UInt32) :
    ((field.extract container).map keep).map RawValue.held? =
      ((field.extract container).map fun bits => (bits.toNat : Int)).map some := by
  by_cases fits : field.Fits
  case pos =>
    obtain ⟨bits, read, worth⟩ := extract_fits fits container
    have kept := keeps bits (by rw [worth]; exact digits_lt fits _)
    rw [read]
    exact congrArg Except.ok kept
  case neg =>
    rw [extract_misfit fits]
    rfl

/-- A raw value that keeps all integers that the container can hold keeps those of a field. -/
theorem extractSigned_held {keep : Int → RawValue}
    (keeps : ∀ value, -2 ^ (field.width - 1) ≤ value ∧ value < 2 ^ (field.width - 1) →
      (keep value).held? = some value) (container : UInt32) :
    ((field.extractSigned container).map keep).map RawValue.held? =
      (field.extractSigned container).map some := by
  by_cases fits : field.Fits
  case pos =>
    rw [extractSigned_fits fits]
    exact congrArg Except.ok (keeps _ (bmod_digits_bounds fits _))
  case neg =>
    rw [extractSigned_misfit fits]
    rfl

/-- A field is refused if it does not fit its container, and for nothing else. -/
theorem extract_error_iff {Value : Type} (keep : UInt32 → Value) (container : UInt32)
    (error : Error) :
    (field.extract container).map keep = .error error ↔
      ¬ field.Fits ∧ error = .invalidBitRange field.start field.stop field.width := by
  by_cases fits : field.Fits
  case pos =>
    obtain ⟨bits, read, -⟩ := extract_fits fits container
    rw [read]
    exact iff_of_false (nomatch ·) fun refused => refused.1 fits
  case neg =>
    rw [extract_misfit fits, and_iff_right fits]
    exact (Except.error.injEq _ _).to_iff.trans eq_comm

theorem extractSigned_error_iff {Value : Type} (keep : Int → Value) (container : UInt32)
    (error : Error) :
    (field.extractSigned container).map keep = .error error ↔
      ¬ field.Fits ∧ error = .invalidBitRange field.start field.stop field.width := by
  rw [← extract_error_iff (fun bits => keep (signExtend bits field.size)) container error,
    extractSigned]
  cases field.extract container <;> rfl

end BitField

/-! ### Fields -/

namespace FieldType

/-- The word that the bytes of a field are, unless they are a text. -/
def word? : FieldType → Option Word
  | i1 | u1 | u1b => some .u1
  | i12 | u12 | u12b | i12b => some .u12
  | f1234 | i1234 | time40 | u1234 | u1234b | i1234b => some .u1234
  | f12345678 | i12345678 | time44 | u12345678 => some .u12345678
  | time42 => some .u123456
  | u21 => some .u21
  | u4321 | u4321b => some .u4321
  | f87654321 => some .u87654321
  | s1 | pseudo | fullPacket => none

/-- Whether the field is in two's complement. -/
def isSigned : FieldType → Bool
  | i1 | i12 | i1234 | i12345678 | i12b | i1234b => true
  | _ => false

/-- What the number of a word is understood as: the bits from `start` to `stop` for a bit field, and
all of it for another field. -/
def understood (type : FieldType) (start stop : Nat) (word : Word) (number : Nat) :
    Except Error Int :=
  if type.isBitField then
    let field : BitField := ⟨8 * word.width, start, stop⟩
    if type.isSigned then field.extractSigned (UInt32.ofNat number)
    else (field.extract (UInt32.ofNat number)).map fun bits => (bits.toNat : Int)
  else .ok (if type.isSigned then word.signed number else number)

variable {type : FieldType} {word : Word}

theorem width_of_word? (found : type.word? = some word) (byteSize : Nat) :
    type.width byteSize = word.width := by
  cases type
  case s1 | pseudo | fullPacket => cases found
  all_goals
    obtain rfl := Option.some.inj found
    rfl

theorem exists_word? (noPseudo : type ≠ .pseudo) (noPacket : type ≠ .fullPacket)
    (noText : type ≠ .s1) : ∃ word, type.word? = some word := by
  cases type
  case s1 | pseudo | fullPacket => contradiction
  all_goals exact ⟨_, rfl⟩

theorem understood_signed (whole : type.isBitField = false) (signed : type.isSigned = true)
    (start stop number : Nat) :
    type.understood start stop word number = .ok (word.signed number) := by
  rw [understood, whole, signed]
  rfl

/-- The raw value of a field holds what its number is understood as. -/
theorem decode_held (found : type.word? = some word) (start stop : Nat) {field : Bytes}
    (wide : field.length = word.width) :
    (type.decode start stop field).map RawValue.held? =
      (type.understood start stop word (word.order.value field)).map some := by
  have bound : word.order.value field < 2 ^ (8 * word.width) := by
    rw [Nat.pow_mul, ← wide]
    exact word.order.value_lt field
  cases type
  case s1 | pseudo | fullPacket => cases found
  all_goals obtain rfl := Option.some.inj found
  -- words that are taken as they are, or as encodings
  case u1 => exact congrArg Except.ok (RawValue.held_uint8 bound)
  case u12 | u21 => exact congrArg Except.ok (RawValue.held_uint16 bound)
  case u1234 | u4321 | time40 | f1234 => exact congrArg Except.ok (RawValue.held_uint32 bound)
  case u12345678 | time44 | f12345678 | f87654321 =>
    exact congrArg Except.ok (RawValue.held_uint64 bound)
  case time42 =>
    exact congrArg Except.ok (RawValue.held_uint64 (Nat.lt_trans bound (by decide)))
  -- words in two's complement
  case i1 =>
    rw [understood_signed rfl rfl]
    exact congrArg Except.ok (RawValue.held_int8 (Word.u1.signed_bounds rfl _))
  case i12 =>
    rw [understood_signed rfl rfl]
    exact congrArg Except.ok (RawValue.held_int16 (Word.u12.signed_bounds rfl _))
  case i1234 =>
    rw [understood_signed rfl rfl]
    exact congrArg Except.ok (RawValue.held_int32 (Word.u1234.signed_bounds rfl _))
  case i12345678 =>
    rw [understood_signed rfl rfl]
    exact congrArg Except.ok (RawValue.held_int64 (Word.u12345678.signed_bounds rfl _))
  -- some bits of a word
  case u1b => exact BitField.extract_held (fun _ => RawValue.held_uint8) _
  case u12b => exact BitField.extract_held (fun _ => RawValue.held_uint16) _
  case u1234b | u4321b => exact BitField.extract_held (fun _ _ => rfl) _
  case i12b => exact BitField.extractSigned_held (fun _ => RawValue.held_int16) _
  case i1234b => exact BitField.extractSigned_held (fun _ => RawValue.held_int32) _

/-- The kind of raw value that the field type gives. -/
def rawKind : FieldType → RawKind
  | i1 => .int8
  | i12 | i12b => .int16
  | i1234 | i1234b | pseudo => .int32
  | i12345678 => .int64
  | u1 | u1b => .uint8
  | u12 | u21 | u12b => .uint16
  | time40 | u1234 | u4321 | u1234b | u4321b => .uint32
  | time42 | time44 | u12345678 => .uint64
  | f1234 => .single
  | f12345678 | f87654321 => .double
  | s1 => .text
  | fullPacket => .bytes

/-- The raw value of a field is of the kind that the field type gives. -/
theorem kind_of_decode {start stop : Nat} {field : Bytes} {raw : RawValue}
    (decoded : type.decode start stop field = .ok raw) : raw.kind = type.rawKind := by
  cases type
  case u1b | u12b | u1234b | u4321b | i12b | i1234b =>
    exact RawValue.kind_of_map decoded fun _ => rfl
  all_goals
    obtain rfl := Except.ok.inj decoded
    rfl

/-- The field is a bit field, and its range does not fit its container. -/
def Misfits (type : FieldType) (byteSize start stop : Nat) : Prop :=
  type.isBitField ∧ (stop < start ∨ 8 * type.width byteSize ≤ stop)

theorem width_le_of_isBitField (bitField : type.isBitField) (byteSize : Nat) :
    type.width byteSize ≤ 4 := by
  cases type
  case u1b | u12b | u1234b | u4321b | i12b | i1234b => simp [width]
  all_goals cases bitField

theorem misfits_iff (bitField : type.isBitField) (byteSize start stop : Nat) :
    type.Misfits byteSize start stop ↔
      ¬ BitField.Fits ⟨8 * type.width byteSize, start, stop⟩ := by
  have narrow := width_le_of_isBitField bitField byteSize
  rw [Misfits, and_iff_right bitField]
  show _ ↔ ¬ (8 * type.width byteSize ≤ 32 ∧ start ≤ stop ∧ stop < 8 * type.width byteSize)
  omega

/-- A field is refused if its range does not fit its container, and for nothing else. -/
theorem decode_error_iff (type : FieldType) (byteSize start stop : Nat) (field : Bytes)
    (error : Error) :
    type.decode start stop field = .error error ↔
      type.Misfits byteSize start stop ∧
        error = .invalidBitRange start stop (8 * type.width byteSize) := by
  cases type
  case u1b | u12b | u1234b | u4321b =>
    rw [misfits_iff rfl]
    exact BitField.extract_error_iff _ _ error
  case i12b | i1234b =>
    rw [misfits_iff rfl]
    exact BitField.extractSigned_error_iff _ _ error
  all_goals exact iff_of_false (nomatch ·) fun refused => nomatch refused.1.1

/-- Nothing behind a zero counts for the text of a field. -/
theorem textOf_append_zero (front tail : Bytes) : textOf (front ++ 0 :: tail) = textOf front := by
  have stops : (0 :: tail).takeWhile (fun byte : UInt8 => byte != 0) = [] := rfl
  have ends : (front ++ 0 :: tail).takeWhile (· != 0) = front.takeWhile (· != 0) := by
    rw [List.takeWhile_append, stops, List.append_nil]
    split
    case isTrue whole => exact ((List.takeWhile_prefix _).eq_of_length whole).symm
    case isFalse => rfl
  rw [textOf, ends, textOf]

/-- A text without zeros is read back. -/
theorem textOf_utf8 {content : String} (noZero : 0 ∉ Text.utf8 content) :
    textOf (Text.utf8 content) = content := by
  have whole : (Text.utf8 content).takeWhile (· != 0) = Text.utf8 content := by
    rw [List.takeWhile_eq_self_iff]
    intro byte member
    exact bne_iff_ne.mpr fun zero => noZero (zero ▸ member)
  rw [textOf, whole, Text.ofUtf8_utf8]

end FieldType

/-! ### Points -/

namespace PointDefinition

/-- The point is read from a field of the packet. -/
def HasField (point : PointDefinition) : Prop :=
  point.fieldType ≠ .pseudo ∧ point.fieldType ≠ .fullPacket

instance (point : PointDefinition) : Decidable point.HasField :=
  inferInstanceAs (Decidable (_ ∧ _))

/-- How many bytes the field takes. -/
def width (point : PointDefinition) : Nat :=
  point.fieldType.width point.byteSize

/-- Where the field ends. -/
def fieldStop (point : PointDefinition) : Nat :=
  point.byteOffset + point.width

/-- The point is a bit field, and its range does not fit its container. -/
def Misfits (point : PointDefinition) : Prop :=
  point.fieldType.Misfits point.byteSize point.bitStart point.bitStop

variable {point : PointDefinition}

theorem hasField_of_word? {word : Word} (found : point.fieldType.word? = some word) :
    point.HasField := by
  constructor
  all_goals
    intro none
    rw [none] at found
    cases found

/-- The raw value of a point is of the kind that its field type gives. -/
theorem kind_of_rawValue {packet : Bytes} {raw : RawValue}
    (read : point.rawValue packet = .ok (.ok raw)) : raw.kind = point.fieldType.rawKind := by
  unfold rawValue at read
  cases taken : point.field packet with
  | error =>
    rw [taken] at read
    cases read
  | ok answer =>
    rw [taken] at read
    obtain ⟨field, -, decoded⟩ := bind_ok_cases (Except.ok.inj read)
    exact FieldType.kind_of_decode decoded

/-- The point is read from the bytes of its field, which the packet has to hold. -/
theorem rawValue_eq (hasField : point.HasField) (range : point.fieldStop < sizeBound)
    (packet : Bytes) :
    point.rawValue packet =
      .ok (match packet.slice? point.byteOffset point.width with
        | some field => point.fieldType.decode point.bitStart point.bitStop field
        | none => .error (.notEnoughData packet.length point.fieldStop)) := by
  have read : point.field packet = match packet.slice? point.byteOffset point.width with
      | some field => .ok (.ok field)
      | none => .ok (.error (.notEnoughData packet.length point.fieldStop)) := by
    unfold field
    split
    case h_1 pseudo => exact absurd pseudo hasField.1
    case h_2 whole => exact absurd whole hasField.2
    case h_3 => exact if_neg (Nat.not_le_of_lt range)
  rw [rawValue, read]
  cases packet.slice? point.byteOffset point.width <;> rfl

section Read

variable (hasField : point.HasField) (range : point.fieldStop < sizeBound) {packet : Bytes}
include hasField range

theorem rawValue_short (short : packet.length < point.fieldStop) :
    point.rawValue packet = .ok (.error (.notEnoughData packet.length point.fieldStop)) := by
  rw [rawValue_eq hasField range, Bytes.slice?_eq_none short]

theorem rawValue_of_slice {field : Bytes}
    (found : packet.slice? point.byteOffset point.width = some field) :
    point.rawValue packet =
      .ok (point.fieldType.decode point.bitStart point.bitStop field) := by
  rw [rawValue_eq hasField range, found]

/-- The raw value of a point holds what the number of its field is understood as. -/
theorem rawValue_held {word : Word} (found : point.fieldType.word? = some word)
    (inside : point.fieldStop ≤ packet.length) :
    ∃ number, word.read? packet point.byteOffset = some number ∧
      (point.rawValue packet).map (·.map RawValue.held?) =
        .ok ((point.fieldType.understood point.bitStart point.bitStop word number).map some) := by
  have wide : point.width = word.width := FieldType.width_of_word? found point.byteSize
  obtain ⟨field, sliced⟩ : ∃ field, packet.slice? point.byteOffset point.width = some field :=
    ⟨_, Bytes.slice?_eq_some inside⟩
  have length : field.length = word.width := (Bytes.length_slice? sliced).trans wide
  refine ⟨word.order.value field, ?_, ?_⟩
  · rw [Word.read?, ← wide, sliced, Option.map_some]
  · rw [rawValue_of_slice hasField range sliced]
    exact congrArg Except.ok (FieldType.decode_held found _ _ length)

/-- The raw value of a point is the one of the kind of its field type that holds what the number of
its field is understood as. -/
theorem rawValue_eq_ok_iff {word : Word} {number : Nat} (found : point.fieldType.word? = some word)
    (inside : point.fieldStop ≤ packet.length)
    (read : word.read? packet point.byteOffset = some number) (raw : RawValue) :
    point.rawValue packet = .ok (.ok raw) ↔
      raw.kind = point.fieldType.rawKind ∧
        (point.fieldType.understood point.bitStart point.bitStop word number).map some =
          .ok raw.held? := by
  obtain ⟨_, again, held⟩ := rawValue_held hasField range found inside
  obtain rfl := Option.some.inj (read.symm.trans again)
  constructor
  · intro given
    rw [given] at held
    exact ⟨kind_of_rawValue given, (Except.ok.inj held).symm⟩
  · rintro ⟨kind, same⟩
    cases understood : point.fieldType.understood point.bitStart point.bitStop word number with
    | error =>
      rw [understood] at same
      cases same
    | ok value =>
      rw [understood] at same held
      obtain ⟨other, given, holds⟩ := RawValue.exists_of_held held
      have sameKind : other.kind = raw.kind := (kind_of_rawValue given).trans kind.symm
      rw [given, RawValue.eq_of_held sameKind holds (Except.ok.inj same).symm]

/-- The point is refused if the packet is too short for its field, or else if the range of its bits
does not fit, and for nothing else. -/
theorem rawValue_error_iff (error : Error) :
    point.rawValue packet = .ok (.error error) ↔
      packet.length < point.fieldStop ∧ error = .notEnoughData packet.length point.fieldStop ∨
        point.fieldStop ≤ packet.length ∧ point.Misfits ∧
          error = .invalidBitRange point.bitStart point.bitStop (8 * point.width) := by
  rcases Nat.lt_or_ge packet.length point.fieldStop with short | inside
  · rw [rawValue_short hasField range short, Except.ok.injEq, Except.error.injEq, eq_comm]
    simp [short, Nat.not_le_of_lt short]
  · rw [rawValue_of_slice hasField range (Bytes.slice?_eq_some inside), Except.ok.injEq,
      FieldType.decode_error_iff _ point.byteSize]
    simp [inside, Nat.not_lt_of_le inside, Misfits, width]

/-- A point that is not refused has a raw value. -/
theorem exists_rawValue_iff :
    (∃ raw, point.rawValue packet = .ok (.ok raw)) ↔
      point.fieldStop ≤ packet.length ∧ ¬ point.Misfits := by
  constructor
  · rintro ⟨raw, read⟩
    have inside : point.fieldStop ≤ packet.length := by
      refine Nat.le_of_not_lt fun short => ?_
      rw [rawValue_short hasField range short] at read
      cases read
    refine ⟨inside, fun misfits => ?_⟩
    rw [(rawValue_error_iff hasField range _).mpr (.inr ⟨inside, misfits, rfl⟩)] at read
    cases read
  · rintro ⟨inside, fits⟩
    rw [rawValue_of_slice hasField range (Bytes.slice?_eq_some inside)]
    cases decoded : point.fieldType.decode point.bitStart point.bitStop _ with
    | ok raw => exact ⟨raw, rfl⟩
    | error error =>
      exact absurd ((FieldType.decode_error_iff _ point.byteSize _ _ _ _).mp decoded).1 fits

end Read

/-- A point is read from its field in a packet as its definition says. -/
structure ReadsField (point : PointDefinition) (packet : Bytes) : Prop where
  /-- No check fails when the point is read check by check. -/
  checked : point.checkedRawValue packet = point.rawValue packet
  /-- The packet is refused if it ends before the field does. -/
  short : point.rawValue packet = .ok (.error (.notEnoughData packet.length point.fieldStop)) ↔
    packet.length < point.fieldStop
  /-- Otherwise the point is refused if it is a bit field that does not fit its container. -/
  misfit : point.rawValue packet =
      .ok (.error (.invalidBitRange point.bitStart point.bitStop (8 * point.width))) ↔
    point.fieldStop ≤ packet.length ∧ point.Misfits
  /-- Otherwise there is a raw value. -/
  answered : (∃ raw, point.rawValue packet = .ok (.ok raw)) ↔
    point.fieldStop ≤ packet.length ∧ ¬ point.Misfits
  /-- The raw value is of the kind that the field type gives. -/
  kind : ∀ raw, point.rawValue packet = .ok (.ok raw) → raw.kind = point.fieldType.rawKind
  /-- In every packet that has the same bytes in the place of the field the point reads the same. -/
  near : point.fieldStop ≤ packet.length → ∀ other : Bytes,
    other.slice? point.byteOffset point.width = packet.slice? point.byteOffset point.width →
      point.rawValue other = point.rawValue packet
  /-- The raw value holds what the word of the field is understood as, and is the only one of its
  kind that does. -/
  held : point.fieldStop ≤ packet.length → point.fieldType ≠ .s1 →
    ∃ word number, point.fieldType.word? = some word ∧
      word.read? packet point.byteOffset = some number ∧
      (point.rawValue packet).map (·.map RawValue.held?) =
        .ok ((point.fieldType.understood point.bitStart point.bitStop word number).map some) ∧
      ∀ raw, point.rawValue packet = .ok (.ok raw) ↔
        raw.kind = point.fieldType.rawKind ∧
          (point.fieldType.understood point.bitStart point.bitStop word number).map some =
            .ok raw.held?
  /-- Nothing behind the first zero of a text counts. -/
  ended : point.fieldType = .s1 → ∀ (other front tail otherTail : Bytes),
    packet.slice? point.byteOffset point.width = some (front ++ 0 :: tail) →
      other.slice? point.byteOffset point.width = some (front ++ 0 :: otherTail) →
        point.rawValue other = point.rawValue packet
  /-- A text without zeros is read as it was written, up to the end of the field or a zero. -/
  text : point.fieldType = .s1 → ∀ (content : String) (rest : Bytes), 0 ∉ Text.utf8 content →
    rest = [] ∨ (∃ tail, rest = 0 :: tail) →
      packet.slice? point.byteOffset point.width = some (Text.utf8 content ++ rest) →
        point.rawValue packet = .ok (.ok (.text content))

/-- **A point that has a field is read from its field in every packet.** -/
theorem rawValue_readsField (hasField : point.HasField) (range : point.fieldStop < sizeBound)
    (packet : Bytes) : point.ReadsField packet where
  checked := checkedRawValue_eq point packet
  short := by simp [rawValue_error_iff hasField range]
  misfit := by simp [rawValue_error_iff hasField range]
  answered := exists_rawValue_iff hasField range
  kind := fun _ => kind_of_rawValue
  near := by
    intro inside other same
    have sliced := Bytes.slice?_eq_some inside
    rw [rawValue_of_slice hasField range sliced,
      rawValue_of_slice hasField range (same.trans sliced)]
  held := by
    intro inside noText
    obtain ⟨word, found⟩ := FieldType.exists_word? hasField.1 hasField.2 noText
    obtain ⟨number, read, held⟩ := rawValue_held hasField range found inside
    exact ⟨word, number, found, read, held, rawValue_eq_ok_iff hasField range found inside read⟩
  ended := by
    intro isText other front tail otherTail sliced otherSliced
    rw [rawValue_of_slice hasField range sliced, rawValue_of_slice hasField range otherSliced,
      isText]
    show _ = Except.ok (Except.ok (RawValue.text (FieldType.textOf (front ++ 0 :: tail))))
    rw [FieldType.textOf_append_zero, ← FieldType.textOf_append_zero front otherTail]
    rfl
  text := by
    intro isText content rest noZero ends sliced
    rw [rawValue_of_slice hasField range sliced, isText]
    show Except.ok (Except.ok (RawValue.text (FieldType.textOf (Text.utf8 content ++ rest)))) = _
    rcases ends with rfl | ⟨tail, rfl⟩
    · rw [List.append_nil, FieldType.textOf_utf8 noZero]
    · rw [FieldType.textOf_append_zero, FieldType.textOf_utf8 noZero]

/-- Bits 4 to 7 of the two bytes behind the first. -/
def nibblePoint : PointDefinition :=
  { id := "HK.NIBBLE", name := "NIBBLE", fieldType := .i12b, byteOffset := 1, bitStart := 4,
    bitStop := 7 }

/-- These bits are 1011, which is -5 in two's complement. -/
theorem rawValue_nibblePoint :
    nibblePoint.HasField ∧ nibblePoint.fieldStop < sizeBound ∧
      nibblePoint.ReadsField [9, 0x0b, 0x40, 7] ∧
      nibblePoint.rawValue [9, 0x0b, 0x40, 7] = .ok (.ok (.int16 (-5))) := by
  have hasField : nibblePoint.HasField := by decide
  have range : nibblePoint.fieldStop < sizeBound := by decide
  exact ⟨hasField, range, rawValue_readsField hasField range _, by decide⟩

end PointDefinition

end Downlink
