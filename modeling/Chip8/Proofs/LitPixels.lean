import Chip8.Proofs.Drawing
import Mathlib.Data.Finset.Prod

/-!
# Counting lit pixels

The number of lit pixels can be counted on the grid, since every pixel has one cell and every cell
is a pixel.  A sprite changes it by one for each set bit over the grid: up if the pixel was dark and
down if it was lit.  For this the bits must hit pixels of their own, also where the sprite is cut
off at an edge.

## Main definitions

* `Sprite.bitsOnGrid` — the set bits of a sprite over the grid, by row and column
* `Screen.lit`, `Sprite.shown` — the lit pixels, and those that a sprite covers

## Main statements

* `litPixels_eq_card` — the count is the number of lit pixels of the grid
* `lit_draw` — drawing turns off what is lit and covered, and lights what is covered only
* `card_filter_bitsOnGrid` — bits and the pixels under them are equally many
* `drawing_accounts_for_pixels` — what a sprite adds and takes
-/

namespace Chip8

/-! ## Bits and pixels -/

namespace Sprite

/-- The set bits of a sprite with its top left corner at `(x, y)` that stand over a pixel of the
grid, each as its row and its column from the left. -/
def bitsOnGrid (x y : Nat) (rows : List UInt8) : Finset (Nat × Nat) :=
  (Finset.range rows.length ×ˢ Finset.range 8).filter fun bit =>
    ((rows[bit.1]?).any fun row => row.toNat.testBit (7 - bit.2)) = true ∧
      x + bit.2 < 64 ∧ y + bit.1 < 32

/-- The pixels under these bits. -/
def shown (x y : Nat) (rows : List UInt8) : Finset (Nat × Nat) :=
  (bitsOnGrid x y rows).image fun bit => (x + bit.2, y + bit.1)

variable {x y : Nat} {rows : List UInt8}

theorem mem_bitsOnGrid_iff {row column : Nat} :
    (row, column) ∈ bitsOnGrid x y rows ↔
      column < 8 ∧ x + column < 64 ∧ y + row < 32 ∧
        ∃ bits, rows[row]? = some bits ∧ bits.toNat.testBit (7 - column) = true := by
  simp only [bitsOnGrid, Finset.mem_filter, Finset.mem_product, Finset.mem_range,
    Option.any_eq_true]
  constructor
  · rintro ⟨⟨-, inRow⟩, set, left, above⟩
    exact ⟨inRow, left, above, set⟩
  · rintro ⟨inRow, left, above, bits, here, set⟩
    have inSprite : row < rows.length := (List.getElem?_eq_some_iff.mp here).1
    exact ⟨⟨inSprite, inRow⟩, ⟨bits, here, set⟩, left, above⟩

/-- The pixels under the bits are those of the grid that the sprite covers. -/
theorem mem_shown_iff {px py : Nat} :
    (px, py) ∈ shown x y rows ↔ px < 64 ∧ py < 32 ∧ covers x y rows px py = true := by
  simp only [shown, Finset.mem_image, Prod.exists, Prod.mk.injEq, mem_bitsOnGrid_iff, covers_iff]
  constructor
  · rintro ⟨row, column, ⟨inRow, left, above, bits, here, set⟩, rfl, rfl⟩
    refine ⟨left, above, by omega, by omega, by omega, bits, ?_, ?_⟩
    · rwa [Nat.add_sub_cancel_left]
    · rwa [Nat.add_sub_cancel_left]
  · rintro ⟨left, above, fromX, toX, fromY, bits, here, set⟩
    exact ⟨py - y, px - x, ⟨by omega, by omega, by omega, bits, here, set⟩, by omega, by omega⟩

/-- No two bits stand over the same pixel. -/
theorem place_injective (x y : Nat) :
    Function.Injective fun bit : Nat × Nat => (x + bit.2, y + bit.1) := by
  rintro ⟨row, column⟩ ⟨row', column'⟩ same
  simp only [Prod.mk.injEq, Nat.add_left_cancel_iff] at same
  rw [same.1, same.2]

theorem card_bitsOnGrid (x y : Nat) (rows : List UInt8) :
    (bitsOnGrid x y rows).card = (shown x y rows).card := by
  rw [shown, Finset.card_image_of_injective _ (place_injective x y)]

/-- So bits and the pixels under them can be counted for each other. -/
theorem card_filter_bitsOnGrid (x y : Nat) (rows : List UInt8) (P : Nat → Nat → Bool) :
    ((bitsOnGrid x y rows).filter fun bit => P (x + bit.2) (y + bit.1) = true).card =
      ((shown x y rows).filter fun pixel => P pixel.1 pixel.2 = true).card := by
  rw [shown, Finset.filter_image, Finset.card_image_of_injective _ (place_injective x y)]

end Sprite

namespace Screen

/-! ## Lit pixels -/

/-- The pixels that are lit. -/
def lit (s : Screen) : Finset (Nat × Nat) :=
  (Finset.range 64 ×ˢ Finset.range 32).filter fun pixel => s.pixel pixel.1 pixel.2 = true

theorem mem_lit_iff {s : Screen} {px py : Nat} :
    (px, py) ∈ s.lit ↔ px < 64 ∧ py < 32 ∧ s.pixel px py = true := by
  simp only [lit, Finset.mem_filter, Finset.mem_product, Finset.mem_range, and_assoc]

/-- The cells row by row. -/
theorem toList_pixels (s : Screen) :
    s.pixels.toList = (List.range 2048).map fun i => s.pixel (i % 64) (i / 64) := by
  apply List.ext_getElem
  · simp
  · intro i here _
    have inside : i < 2048 := by simpa using here
    have on : OnGrid (i % 64) (i / 64) :=
      ⟨Nat.mod_lt i (by decide), by simp only [height]; omega⟩
    have place : i / 64 * width + i % 64 = i := by simp only [width]; omega
    simp [pixel, on, place, inside]

/-- Counting along a list of values is counting the places that hold them. -/
theorem count_map_range (value : Nat → Bool) (n : Nat) :
    ((List.range n).map value).count true =
      ((Finset.range n).filter fun i => value i = true).card := by
  induction n with
  | zero => rfl
  | succ n ih =>
      rw [List.range_succ, List.map_append, List.count_append, ih, Finset.range_add_one,
        Finset.filter_insert]
      cases last : value n <;> simp [last]

/-- The number of lit pixels, counted on the grid. -/
theorem litPixels_eq_card (s : Screen) : s.litPixels = s.lit.card := by
  have apart : Function.Injective fun i : Nat => (i % 64, i / 64) := by
    intro i j same
    simp only [Prod.mk.injEq] at same
    omega
  have image : s.lit = ((Finset.range 2048).filter fun i =>
      s.pixel (i % 64) (i / 64) = true).image fun i => (i % 64, i / 64) := by
    ext ⟨px, py⟩
    simp only [mem_lit_iff, Finset.mem_image, Finset.mem_filter, Finset.mem_range, Prod.mk.injEq]
    constructor
    · rintro ⟨column, row, shown⟩
      have left : (py * 64 + px) % 64 = px := by omega
      have above : (py * 64 + px) / 64 = py := by omega
      exact ⟨py * 64 + px, ⟨by omega, by rwa [left, above]⟩, left, above⟩
    · rintro ⟨i, ⟨inside, shown⟩, rfl, rfl⟩
      exact ⟨by omega, by omega, shown⟩
  rw [litPixels, toList_pixels, count_map_range, image, Finset.card_image_of_injective _ apart]

/-! ## Drawing -/

/-- Drawing turns off what is lit and covered, and lights what is covered only. -/
theorem lit_draw (s : Screen) (x y : Nat) (rows : List UInt8) :
    (s.draw x y rows).1.lit =
      (s.lit \ Sprite.shown x y rows) ∪ (Sprite.shown x y rows \ s.lit) := by
  ext ⟨px, py⟩
  simp only [Finset.mem_union, Finset.mem_sdiff, mem_lit_iff, Sprite.mem_shown_iff]
  by_cases on : px < 64 ∧ py < 32
  · rw [(draw_overlaid s x y rows).pixel px py on.1 on.2]
    cases s.pixel px py <;> cases Sprite.covers x y rows px py <;> simp [on]
  · simp [← and_assoc, on]

/-- The covered pixels that were lit. -/
theorem filter_shown (s : Screen) (x y : Nat) (rows : List UInt8) :
    ((Sprite.shown x y rows).filter fun pixel => s.pixel pixel.1 pixel.2 = true) =
      Sprite.shown x y rows ∩ s.lit := by
  ext ⟨px, py⟩
  simp only [Finset.mem_filter, Finset.mem_inter, Sprite.mem_shown_iff, mem_lit_iff]
  tauto

/-- A covered pixel is one more that is lit, or, if it was lit, one less. -/
theorem litPixels_draw (s : Screen) (x y : Nat) (rows : List UInt8) :
    (s.draw x y rows).1.litPixels + 2 * (Sprite.shown x y rows ∩ s.lit).card =
      s.litPixels + (Sprite.shown x y rows).card := by
  have dark := Finset.card_sdiff_add_card_inter (Sprite.shown x y rows) s.lit
  have bare := Finset.card_sdiff_add_card_inter s.lit (Sprite.shown x y rows)
  have apart : Disjoint (s.lit \ Sprite.shown x y rows) (Sprite.shown x y rows \ s.lit) :=
    disjoint_sdiff_sdiff
  rw [litPixels_eq_card, litPixels_eq_card, lit_draw, Finset.card_union_of_disjoint apart]
  rw [Finset.inter_comm] at bare
  omega

/-- **Drawing accounts for every lit pixel.**  On every screen, for every sprite at every place,
the number of lit pixels goes up by the number of set bits over the grid and down by twice the
number of those over a lit pixel, and a collision is reported exactly if there are any of the
latter.  The number of lit pixels is the number of places on the grid where a pixel is lit. -/
theorem drawing_accounts_for_pixels :
    (∀ (s : Screen) (x y : Nat) (rows : List UInt8),
      let bits := Sprite.bitsOnGrid x y rows
      let met := bits.filter fun bit => s.pixel (x + bit.2) (y + bit.1) = true
      ((s.draw x y rows).1.litPixels : Int) = s.litPixels + bits.card - 2 * met.card ∧
      ((s.draw x y rows).2 = true ↔ 0 < met.card)) ∧
    ∀ s : Screen, s.litPixels =
      ((Finset.range 64 ×ˢ Finset.range 32).filter fun pixel =>
        s.pixel pixel.1 pixel.2 = true).card := by
  refine ⟨?_, litPixels_eq_card⟩
  intro s x y rows bits met
  have all : bits.card = (Sprite.shown x y rows).card := Sprite.card_bitsOnGrid x y rows
  have lit : met.card = (Sprite.shown x y rows ∩ s.lit).card := by
    rw [← filter_shown]
    exact Sprite.card_filter_bitsOnGrid x y rows s.pixel
  constructor
  · have count := litPixels_draw s x y rows
    rw [all, lit]
    omega
  · rw [(draw_overlaid s x y rows).collision, lit, Finset.card_pos]
    simp only [Finset.Nonempty, Prod.exists, Finset.mem_inter, Sprite.mem_shown_iff, mem_lit_iff]
    constructor
    · rintro ⟨px, py, column, row, lit, covered⟩
      exact ⟨px, py, ⟨column, row, covered⟩, column, row, lit⟩
    · rintro ⟨px, py, ⟨column, row, covered⟩, -, -, lit⟩
      exact ⟨px, py, column, row, lit, covered⟩

-- of sixteen set bits two are left at the corner
example : (Sprite.bitsOnGrid 62 31 [0xFF, 0xFF]).card = 2 := by decide

end Screen

end Chip8
