import Chip8.Memory.Listing
import Chip8.Proofs.Numerals

/-!
# The listing read back

All rows of the listing have the same length, and so have the places of the bytes in a row.  In a
list of pieces of one length the place of every character can be computed, so the two digits of a
byte stand at a place that depends on its address alone.  Reading the digits at these places gives
back the memory.

## Main definitions

* `Memory.digitsPlace` — where the two digits of a byte stand
* `Memory.ofListing` — the memory that a listing shows

## Main statements

* `getElem?_flatMap_of_length` — places in a list of pieces of one length
* `getElem?_listing` — the digits of a byte
* `ofListing_listing` — the listing read back
* `listing_shows_every_byte` — all of it
-/

namespace Chip8

/-- In a list of pieces of one length, the place of an item tells its piece and its place there. -/
theorem getElem?_flatMap_of_length {α β : Type} {f : α → List β} {k : Nat}
    (length : ∀ x, (f x).length = k) (l : List α) (q : Nat) {j : Nat} (inside : j < k) :
    (l.flatMap f)[k * q + j]? = l[q]?.bind fun x => (f x)[j]? := by
  induction l generalizing q with
  | nil => rfl
  | cons x rest ih =>
      rw [List.flatMap_cons]
      cases q with
      | zero =>
          rw [Nat.mul_zero, Nat.zero_add, List.getElem?_append_left (by rwa [length])]
          rfl
      | succ q =>
          have behind : k * (q + 1) + j = k * q + j + (f x).length := by
            rw [length, Nat.mul_succ]
            omega
          rw [behind, List.getElem?_append_right (Nat.le_add_left _ _), Nat.add_sub_cancel, ih]
          rfl

namespace Memory

/-! ## Rows -/

/-- A row with its line feed. -/
theorem length_line (m : Memory) (row : Nat) : (m.listingRow row ++ ['\n']).length = 104 := by
  rw [List.length_append, length_listingRow]
  rfl

/-- The line feed is at the end of a row. -/
theorem lineFeed_notMem_listingRow (m : Memory) (row : Nat) : '\n' ∉ m.listingRow row := by
  simp only [listingRow, List.mem_append, List.mem_flatMap, List.mem_cons, not_or, not_exists,
    not_and, Numeral.lineFeed_notMem_hex]
  decide

/-- A row begins with the address of its first byte. -/
theorem listingRow_eq (m : Memory) (row : Nat) :
    ∃ rest, m.listingRow row =
      ['0', 'x'] ++ Numeral.hex 4 (listingColumns * row) ++ [':', ' '] ++ rest := by
  refine ⟨(m.listingRow row).drop 8, ?_⟩
  rw [listingRow, List.range_succ_eq_map, List.flatMap_cons]
  rfl

/-- A byte stands in its row behind the address and the bytes before it, each with a blank. -/
theorem getElem?_listingRow (m : Memory) (row : Nat) {column digit : Nat}
    (inRow : column < listingColumns) (two : digit < 2) :
    (m.listingRow row)[8 + 3 * column + digit]? =
      (Numeral.hex 2 (m.byte (listingColumns * row + column)).toNat)[digit]? := by
  have address : (['0', 'x'] ++ Numeral.hex 4 (listingColumns * row) ++ [':']).length = 7 := by
    rw [List.length_append, List.length_append, Numeral.length_hex]
    rfl
  have behind : 8 + 3 * column + digit = 3 * column + (digit + 1) +
      (['0', 'x'] ++ Numeral.hex 4 (listingColumns * row) ++ [':']).length := by
    omega
  have piece (i : Nat) :
      (' ' :: Numeral.hex 2 (m.byte (listingColumns * row + i)).toNat).length = 3 := by
    rw [List.length_cons, Numeral.length_hex]
  rw [listingRow, behind, List.getElem?_append_right (Nat.le_add_left _ _), Nat.add_sub_cancel,
    getElem?_flatMap_of_length piece _ _ (Nat.succ_lt_succ two), List.getElem?_range inRow]
  rfl

/-! ## The whole listing -/

/-- Where the two digits of the byte at `a` stand. -/
def digitsPlace (a : Nat) : Nat :=
  104 * (a / 32) + 8 + 3 * (a % 32)

/-- The digits of a byte stand at their place. -/
theorem getElem?_listing (m : Memory) {a digit : Nat} (inside : a < size) (two : digit < 2) :
    m.listing[digitsPlace a + digit]? = (Numeral.hex 2 (m.byte a).toNat)[digit]? := by
  have row : a / 32 < listingRows := by
    simp only [size] at inside
    simp only [listingRows]
    omega
  have column : a % 32 < listingColumns := Nat.mod_lt _ (by decide)
  have inLine : 8 + 3 * (a % 32) + digit < 104 := by
    simp only [listingColumns] at column
    omega
  have inRow : 8 + 3 * (a % 32) + digit < (m.listingRow (a / 32)).length := by
    rw [length_listingRow]
    simp only [listingColumns] at column
    omega
  have place : digitsPlace a + digit = 104 * (a / 32) + (8 + 3 * (a % 32) + digit) := by
    simp only [digitsPlace, Nat.add_assoc]
  have address : listingColumns * (a / 32) + a % 32 = a := Nat.div_add_mod a 32
  rw [listing, place, getElem?_flatMap_of_length m.length_line _ _ inLine,
    List.getElem?_range row, Option.bind_some, List.getElem?_append_left inRow,
    getElem?_listingRow m (a / 32) column two, address]

/-- The two characters at the place of a byte are its numeral. -/
theorem take_drop_listing (m : Memory) {a : Nat} (inside : a < size) :
    (m.listing.drop (digitsPlace a)).take 2 = Numeral.hex 2 (m.byte a).toNat := by
  apply List.ext_getElem?
  intro digit
  rw [List.getElem?_take]
  split
  · next two => rw [List.getElem?_drop, getElem?_listing m inside two]
  · next far =>
      rw [List.getElem?_eq_none (by rw [Numeral.length_hex]; omega)]

/-- The address of a row has four digits at most. -/
theorem address_fits {row : Nat} (inside : row < listingRows) :
    (listingColumns * row) >>> (4 * 4) = 0 := by
  rw [Nat.shiftRight_eq_div_pow]
  simp only [listingRows, listingColumns] at inside ⊢
  omega

/-- A byte has two digits at most. -/
theorem byte_fits (value : UInt8) : value.toNat >>> (4 * 2) = 0 := by
  rw [Nat.shiftRight_eq_div_pow]
  exact Nat.div_eq_of_lt value.toNat_lt

/-- The two digits of a byte. -/
theorem hex_byte (value : UInt8) :
    (Numeral.hex 2 value.toNat)[0]? = Numeral.hexDigits[value.toNat / 16]? ∧
      (Numeral.hex 2 value.toNat)[1]? = Numeral.hexDigits[value.toNat % 16]? := by
  have upper : value.toNat / 16 < 16 := by
    have := value.toNat_lt
    omega
  have shifted : value.toNat >>> 4 % 16 = value.toNat / 16 := by
    rw [Nat.shiftRight_eq_div_pow]
    omega
  rw [Numeral.getElem?_hexDigits upper, Numeral.getElem?_hexDigits (Nat.mod_lt _ (by decide)),
    ← shifted]
  exact ⟨rfl, rfl⟩

/-- The memory that a listing shows. -/
def ofListing (text : List Char) : Memory where
  cells := Vector.ofFn fun a =>
    UInt8.ofNat ((Numeral.hexadecimal? ((text.drop (digitsPlace a)).take 2)).getD 0)

/-- A listing is read back as the memory it was made of. -/
theorem ofListing_listing (m : Memory) : ofListing m.listing = m := by
  refine eq_of_byte fun a inside => ?_
  have value := Numeral.hexadecimal?_hex (byte_fits (m.byte a))
  rw [byte, ofListing, Vector.getElem?_ofFn, dif_pos inside, Option.getD_some,
    take_drop_listing m inside, value, Option.getD_some, UInt8.ofNat_toNat]

/-- **The listing shows every byte.**  It consists of 128 rows of 103 characters, each with a line
feed behind it and none in it.  A row begins with `0x`, the address of its first byte in four
digits, a colon and a blank.  The two digits of the byte at an address stand at the place that
belongs to the address, the upper one first.  So the memory can be read back from the places, and
memories with the same listing are the same. -/
theorem listing_shows_every_byte (m : Memory) :
    (∃ rows : List (List Char), rows.length = 128 ∧
      m.listing = rows.flatMap (fun row => row ++ ['\n']) ∧
      ∀ r row, rows[r]? = some row → row.length = 103 ∧ '\n' ∉ row ∧
        ∃ address rest, row = ['0', 'x'] ++ address ++ [':', ' '] ++ rest ∧
          address.length = 4 ∧ Numeral.IsHexadecimal address (32 * r)) ∧
    (∀ a < 4096,
      m.listing[104 * (a / 32) + 8 + 3 * (a % 32)]? =
        Numeral.hexDigits[(m.byte a).toNat / 16]? ∧
      m.listing[104 * (a / 32) + 8 + 3 * (a % 32) + 1]? =
        Numeral.hexDigits[(m.byte a).toNat % 16]?) ∧
    ofListing m.listing = m ∧ ∀ n : Memory, n.listing = m.listing → n = m := by
  refine ⟨⟨(List.range listingRows).map m.listingRow, ?_, ?_, ?_⟩, ?_, ofListing_listing m, ?_⟩
  · rw [List.length_map, List.length_range]
  · rw [listing, List.flatMap_map]
  · intro r row found
    obtain ⟨inside, rfl⟩ := List.getElem?_eq_some_iff.mp found
    rw [List.length_map, List.length_range] at inside
    rw [List.getElem_map, List.getElem_range]
    obtain ⟨rest, shape⟩ := m.listingRow_eq r
    exact ⟨m.length_listingRow r, m.lineFeed_notMem_listingRow r, _, rest, shape,
      Numeral.length_hex 4 _, Numeral.isHexadecimal_hex (address_fits inside)⟩
  · intro a inside
    obtain ⟨upper, lower⟩ := hex_byte (m.byte a)
    have first : m.listing[digitsPlace a + 0]? = _ := m.getElem?_listing inside (by decide)
    have second : m.listing[digitsPlace a + 1]? = _ := m.getElem?_listing inside (by decide)
    exact ⟨first.trans upper, second.trans lower⟩
  · intro n same
    rw [← ofListing_listing n, same, ofListing_listing]

end Memory

end Chip8
