/-
**Words in a buffer.**

A word is a run of bytes that spells a number in base 256, its most or its least significant byte
first. Its name gives the significance of each byte in storage order, the most significant being
`1`: `Word.u1234` is a big-endian 32-bit word and `Word.u4321` the reversed one.

* `Word.read?` and `Word.write?` answer nothing exactly when the word does not fit at the offset;
* `ByteOrder.value` and `ByteOrder.spell` are the number that bytes spell and the bytes that spell a
  number;
* `Word.signed` and `Word.ofSigned` are the two's complement reading and spelling.
-/

import Downlink.Bytes

namespace Downlink

/-- Which byte of a word is stored first. -/
inductive ByteOrder
  | mostFirst
  | leastFirst
  deriving DecidableEq, Repr

namespace ByteOrder

/-- The number that bytes spell, least significant byte first. -/
def leastFirstValue (bytes : Bytes) : Nat :=
  bytes.foldr (fun byte value => value * 256 + byte.toNat) 0

/-- The number that bytes spell in this order. -/
def value : ByteOrder → Bytes → Nat
  | .mostFirst, bytes => leastFirstValue bytes.reverse
  | .leastFirst, bytes => leastFirstValue bytes

/-- The `width` low base-256 digits of a number, least significant first. -/
def leastFirstSpell : Nat → Nat → Bytes
  | 0, _ => []
  | width + 1, number => UInt8.ofNat (number % 256) :: leastFirstSpell width (number / 256)

/-- The `width` low base-256 digits of a number in this order. -/
def spell : ByteOrder → Nat → Nat → Bytes
  | .mostFirst, width, number => (leastFirstSpell width number).reverse
  | .leastFirst, width, number => leastFirstSpell width number

theorem length_leastFirstSpell (width number : Nat) :
    (leastFirstSpell width number).length = width := by
  induction width generalizing number with
  | zero => rfl
  | succ width ih => simp [leastFirstSpell, ih]

@[simp] theorem length_spell (order : ByteOrder) (width number : Nat) :
    (order.spell width number).length = width := by
  cases order <;> simp [spell, length_leastFirstSpell]

end ByteOrder

/-- The layout of a word: how its bytes are ordered and how many there are. -/
structure Word where
  order : ByteOrder
  width : Nat
  deriving DecidableEq, Repr

namespace Word

/-- The number stored at `offset`, if the whole word lies inside the buffer. -/
def read? (word : Word) (bytes : Bytes) (offset : Nat) : Option Nat :=
  (bytes.slice? offset word.width).map word.order.value

/-- The buffer with the low bytes of `number` stored at `offset`, if the whole word fits there. -/
def write? (word : Word) (bytes : Bytes) (offset number : Nat) : Option Bytes :=
  bytes.overwrite? offset (word.order.spell word.width number)

/-- A stored number as a two's complement integer of the word's width. -/
def signed (word : Word) (number : Nat) : Int :=
  Int.bmod number (1 <<< (8 * word.width))

/-- The stored number that stands for an integer. -/
def ofSigned (word : Word) (value : Int) : Nat :=
  (value % (1 <<< (8 * word.width) : Nat)).toNat

/-! ### The words of the mission dictionary -/

def u1 : Word := ⟨.mostFirst, 1⟩
def u12 : Word := ⟨.mostFirst, 2⟩
def u123 : Word := ⟨.mostFirst, 3⟩
def u1234 : Word := ⟨.mostFirst, 4⟩
def u123456 : Word := ⟨.mostFirst, 6⟩
def u12345678 : Word := ⟨.mostFirst, 8⟩
def u21 : Word := ⟨.leastFirst, 2⟩
def u4321 : Word := ⟨.leastFirst, 4⟩
def u87654321 : Word := ⟨.leastFirst, 8⟩

end Word

end Downlink
