import Chip8.Opcode
import Chip8.Word

/-!
# Instruction table

Each family is given by a pattern of four characters, one for each nibble of the word, such as
`8XY4`.  A hexadecimal digit fixes its nibble; every other character leaves it to an operand.
A word belongs to the first entry of the table whose fixed nibbles it has.

The order matters for `0NNN` alone, which stands behind the two words it would otherwise take
for itself.

## Main definitions

* `Opcode.Pattern` — the fixed bits of a pattern and where they are
* `Opcode.Pattern.ofChars` — reading a pattern
* `Opcode.Entry`, `Opcode.table` — the instruction table
* `Opcode.lookup`, `Opcode.decode` — the entry and the family of a word
-/

namespace Chip8.Opcode

/-- The fixed bits of a family, and the mask that selects them. -/
structure Pattern where
  value : Word
  mask : Word
deriving DecidableEq, Repr

namespace Pattern

/-- Appends one nibble: a hexadecimal digit is fixed, anything else is open. -/
def push (p : Pattern) (c : Char) : Pattern :=
  match Numeral.hexValue? c with
  | some digit => ⟨p.value <<< 4 ||| UInt16.ofNat digit, p.mask <<< 4 ||| 0xF⟩
  | none => ⟨p.value <<< 4, p.mask <<< 4⟩

/-- Reads a pattern from its characters, the top nibble first. -/
def ofChars (text : List Char) : Pattern :=
  text.foldl push ⟨0, 0⟩

/-- The mask of the operand bits. -/
def operandMask (p : Pattern) : Word :=
  ~~~ p.mask

/-- The word has all fixed bits of the pattern. -/
def Matches (p : Pattern) (w : Word) : Prop :=
  w &&& p.mask = p.value

instance (p : Pattern) (w : Word) : Decidable (p.Matches w) :=
  inferInstanceAs (Decidable (w &&& p.mask = p.value))

end Pattern

/-- A row of the instruction table. -/
structure Entry where
  opcode : Opcode
  /-- The pattern as it is written. -/
  text : String
  pattern : Pattern
deriving DecidableEq, Repr

/-- The row that gives a family by its written pattern. -/
def Entry.ofText (opcode : Opcode) (text : String) : Entry :=
  ⟨opcode, text, .ofChars text.toList⟩

/-- The instruction table. -/
def table : List Entry :=
  [.ofText .clearScreen "00E0",
   .ofText .subroutineReturn "00EE",
   .ofText .machineRoutine "0NNN",
   .ofText .jump "1NNN",
   .ofText .subroutineCall "2NNN",
   .ofText .skipEqX "3XNN",
   .ofText .skipNeqX "4XNN",
   .ofText .skipXEqY "5XY0",
   .ofText .setImmediate "6XNN",
   .ofText .add "7XNN",
   .ofText .setXToY "8XY0",
   .ofText .binaryOr "8XY1",
   .ofText .binaryAnd "8XY2",
   .ofText .logicalXor "8XY3",
   .ofText .binaryAdd "8XY4",
   .ofText .subtractYFromX "8XY5",
   .ofText .rightShift "8XY6",
   .ofText .subtractXFromY "8XY7",
   .ofText .leftShift "8XYE",
   .ofText .skipXNeqY "9XY0",
   .ofText .setIndex "ANNN",
   .ofText .jumpWithOffset "BNNN",
   .ofText .random "CXNN",
   .ofText .draw "DXYN",
   .ofText .skipIfKeyPressed "EX9E",
   .ofText .skipIfKeyNotPressed "EXA1",
   .ofText .setVxFromTimer "FX07",
   .ofText .getKey "FX0A",
   .ofText .setDelayTimer "FX15",
   .ofText .setSoundTimer "FX18",
   .ofText .addToIndex "FX1E",
   .ofText .fontChar "FX29",
   .ofText .binaryCodedDecimal "FX33",
   .ofText .store "FX55",
   .ofText .load "FX65"]

/-- The first row of a table that a word matches. -/
def lookupIn (rows : List Entry) (w : Word) : Option Entry :=
  rows.find? fun entry => entry.pattern.Matches w

/-- The row of the instruction table that a word belongs to. -/
def lookup (w : Word) : Option Entry :=
  lookupIn table w

/-- The family of a word, if it has one. -/
def decode (w : Word) : Option Opcode :=
  (lookup w).map Entry.opcode

end Chip8.Opcode
