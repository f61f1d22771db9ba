import Chip8.Text.Numeral

/-!
# Instruction words

An instruction is a word of sixteen bits, stored with its upper byte at the lower address.  Its
four nibbles are the operation and up to three operands; operands overlap, so the same nibbles
may be read as an address, as a byte or as register numbers.

## Main definitions

* `Word` — sixteen bits
* `Word.nnn`, `Word.nn`, `Word.n` — the address, byte and nibble operands
* `Word.x`, `Word.y` — the register operands
-/

namespace Chip8

/-- An instruction word. -/
abbrev Word := UInt16

/-- One of the sixteen byte registers. -/
abbrev Register := Fin 16

/-- Sixteen is not zero, so numerals stand for registers, and for keys. -/
instance (priority := 1100) sixteen_neZero : @NeZero Nat Zero.ofOfNat0 16 := ⟨nofun⟩

namespace Word

/-- The word whose bytes are `upper` and `lower`. -/
def ofBytes (upper lower : UInt8) : Word :=
  upper.toUInt16 * 256 + lower.toUInt16

/-- The byte at the lower address. -/
def upper (w : Word) : UInt8 :=
  (w / 256).toUInt8

/-- The byte at the higher address. -/
def lower (w : Word) : UInt8 :=
  w.toUInt8

/-- The last three nibbles: an address operand. -/
def nnn (w : Word) : UInt16 :=
  w % 4096

/-- The last two nibbles: a byte operand. -/
def nn (w : Word) : UInt8 :=
  w.lower

/-- The last nibble: a number of rows. -/
def n (w : Word) : Nat :=
  w.toNat % 16

/-- The second nibble: the first register operand. -/
def x (w : Word) : Register :=
  Fin.ofNat 16 (w.toNat / 256)

/-- The third nibble: the second register operand. -/
def y (w : Word) : Register :=
  Fin.ofNat 16 (w.toNat / 16)

/-- The word as four hexadecimal digits. -/
def text (w : Word) : String :=
  String.ofList (Numeral.hex 4 w.toNat)

theorem toNat_ofBytes (upper lower : UInt8) :
    (ofBytes upper lower).toNat = upper.toNat * 256 + lower.toNat := by
  have := upper.toNat_lt
  have := lower.toNat_lt
  simp only [ofBytes, UInt16.toNat_add, UInt16.toNat_mul, UInt8.toNat_toUInt16, UInt16.reduceToNat]
  omega

@[simp] theorem toNat_upper (w : Word) : w.upper.toNat = w.toNat / 256 := by
  have := w.toNat_lt
  simp only [upper, UInt16.toNat_toUInt8, UInt16.toNat_div, UInt16.reduceToNat]
  omega

@[simp] theorem toNat_lower (w : Word) : w.lower.toNat = w.toNat % 256 := by
  simp [lower]

@[simp] theorem toNat_nnn (w : Word) : w.nnn.toNat = w.toNat % 4096 := by
  simp [nnn]

@[simp] theorem toNat_nn (w : Word) : w.nn.toNat = w.toNat % 256 := by
  simp [nn]

theorem n_lt (w : Word) : w.n < 16 :=
  Nat.mod_lt _ (by decide)

end Word

end Chip8
