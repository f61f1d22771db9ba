import Chip8.Memory

/-!
# Memory listing

The whole address space in hexadecimal, thirty-two bytes a row.  A row is the address of its
first byte behind `0x`, a colon, and the bytes with a blank before each:

`0x0020: 10 10 F0 80 F0 …`

## Main definitions

* `Memory.listingRow` — one row, without its line feed
* `Memory.listing` — all rows, each with a line feed
-/

namespace Chip8.Memory

/-- The number of bytes in a row. -/
abbrev listingColumns : Nat := 32

/-- The number of rows. -/
abbrev listingRows : Nat := 128

/-- The row of bytes that starts at `listingColumns * row`. -/
def listingRow (m : Memory) (row : Nat) : List Char :=
  ['0', 'x'] ++ Numeral.hex 4 (listingColumns * row) ++ [':'] ++
    (List.range listingColumns).flatMap fun column =>
      ' ' :: Numeral.hex 2 (m.byte (listingColumns * row + column)).toNat

/-- The listing of the whole memory. -/
def listing (m : Memory) : List Char :=
  (List.range listingRows).flatMap fun row => m.listingRow row ++ ['\n']

theorem length_listingRow (m : Memory) (row : Nat) : (m.listingRow row).length = 103 := by
  simp only [listingRow, List.length_append, List.length_flatMap, List.length_cons,
    Numeral.length_hex]
  rfl

end Chip8.Memory
