/-!
# Screen

A monochrome grid of 64 by 32 pixels.  Unlike addresses, coordinates outside the grid are no
error: nothing is lit there and nothing can be.

A sprite is a list of rows of eight pixels, the leftmost one in the highest bit.  Drawing a
sprite inverts the pixels under its set bits, one after the other; what lies outside the grid is
left out and does not come in again at the other side.

## Main definitions

* `Screen.pixel` — whether a pixel is lit: the view all laws are stated with
* `Screen.set`, `Screen.toggle` — changing one pixel
* `Sprite.cells` — the coordinates of the set bits of a sprite
* `Screen.draw` — drawing a sprite, and whether that turned a pixel off
* `Screen.litPixels` — how many pixels are lit
-/

namespace Chip8

namespace Sprite

/-- Whether the bit at `column` of a row is set, counting from the left. -/
def bit (row : UInt8) (column : Nat) : Bool :=
  column < 8 && row.toNat.testBit (7 - column)

/-- The coordinates under the set bits of one row with its left end at `(x, y)`. -/
def rowCells (x y : Nat) (row : UInt8) : List (Nat × Nat) :=
  ((List.range 8).filter (bit row)).map fun column => (x + column, y)

/-- The coordinates under the set bits of a sprite with its top left corner at `(x, y)`. -/
def cells (x y : Nat) : List UInt8 → List (Nat × Nat)
  | [] => []
  | row :: rows => rowCells x y row ++ cells x (y + 1) rows

theorem mem_rowCells_iff {x y px py : Nat} {row : UInt8} :
    (px, py) ∈ rowCells x y row ↔ ∃ column, bit row column = true ∧ px = x + column ∧ py = y := by
  simp only [rowCells, List.mem_map, List.mem_filter, List.mem_range, Prod.mk.injEq]
  constructor
  · rintro ⟨column, ⟨-, set⟩, rfl, rfl⟩
    exact ⟨column, set, rfl, rfl⟩
  · rintro ⟨column, set, rfl, rfl⟩
    have inRow : column < 8 := by
      simp only [bit, Bool.and_eq_true, decide_eq_true_eq] at set
      exact set.1
    exact ⟨column, ⟨inRow, set⟩, rfl, rfl⟩

/-- The cells of a sprite are those at the set bits of its rows. -/
theorem mem_cells_iff {x y px py : Nat} {rows : List UInt8} :
    (px, py) ∈ cells x y rows ↔
      ∃ i row column, rows[i]? = some row ∧ bit row column = true ∧
        px = x + column ∧ py = y + i := by
  induction rows generalizing y with
  | nil => simp [cells]
  | cons first rest ih =>
    rw [cells, List.mem_append, mem_rowCells_iff, ih]
    constructor
    · rintro (⟨column, set, rfl, rfl⟩ | ⟨i, row, column, here, set, rfl, rfl⟩)
      · exact ⟨0, first, column, rfl, set, rfl, rfl⟩
      · exact ⟨i + 1, row, column, here, set, rfl, by omega⟩
    · rintro ⟨i, row, column, here, set, rfl, rfl⟩
      cases i with
      | zero =>
        cases here
        exact .inl ⟨column, set, rfl, rfl⟩
      | succ i => exact .inr ⟨i, row, column, here, set, rfl, by omega⟩

end Sprite

/-- The pixels, row by row from the top. -/
structure Screen where
  pixels : Vector Bool 2048
deriving DecidableEq

namespace Screen

/-- The number of columns. -/
abbrev width : Nat := 64

/-- The number of rows. -/
abbrev height : Nat := 32

/-- Nothing is lit. -/
def blank : Screen :=
  ⟨Vector.replicate 2048 false⟩

/-- The pixel is on the grid. -/
abbrev OnGrid (x y : Nat) : Prop :=
  x < width ∧ y < height

/-- Whether a pixel is lit. -/
def pixel (s : Screen) (x y : Nat) : Bool :=
  if OnGrid x y then (s.pixels[y * width + x]?).getD false else false

/-- The screen with one pixel lit or not; outside the grid nothing changes. -/
def set (s : Screen) (x y : Nat) (lit : Bool) : Screen :=
  if OnGrid x y then ⟨s.pixels.setIfInBounds (y * width + x) lit⟩ else s

/-- The screen with one pixel inverted. -/
def toggle (s : Screen) (x y : Nat) : Screen :=
  s.set x y !(s.pixel x y)

/-- Inverts the pixels of a list in its order, and tells whether one of them was lit when its
turn came or `hit` was set already. -/
def toggleAll : (hit : Bool) → Screen → List (Nat × Nat) → Screen × Bool
  | hit, s, [] => (s, hit)
  | hit, s, (x, y) :: rest => toggleAll (hit || s.pixel x y) (s.toggle x y) rest

/-- Draws a sprite with its top left corner at `(x, y)`.  The second component tells whether a
lit pixel was turned off. -/
def draw (s : Screen) (x y : Nat) (sprite : List UInt8) : Screen × Bool :=
  s.toggleAll false (Sprite.cells x y sprite)

/-- The number of lit pixels. -/
def litPixels (s : Screen) : Nat :=
  s.pixels.toList.count true

@[simp] theorem pixel_blank (x y : Nat) : blank.pixel x y = false := by
  by_cases h : y * width + x < 2048 <;> simp [pixel, blank, h]

theorem pixel_of_not_onGrid {x y : Nat} (h : ¬ OnGrid x y) (s : Screen) :
    s.pixel x y = false := by
  rw [pixel, if_neg h]

/-- Two pixels of the grid stand at the same place only if they are the same. -/
theorem place_inj {x y x' y' : Nat} (h : OnGrid x y) (h' : OnGrid x' y') :
    y * width + x = y' * width + x' ↔ x = x' ∧ y = y' := by
  simp only [OnGrid, width, height] at h h' ⊢
  omega

theorem place_lt {x y : Nat} (h : OnGrid x y) : y * width + x < 2048 := by
  simp only [OnGrid, width, height] at h ⊢
  omega

/-- Setting a pixel of the grid changes that pixel and no other. -/
theorem pixel_set (s : Screen) (x y : Nat) (lit : Bool) (px py : Nat) :
    (s.set x y lit).pixel px py =
      if OnGrid x y ∧ px = x ∧ py = y then lit else s.pixel px py := by
  by_cases on : OnGrid x y
  · by_cases here : px = x ∧ py = y
    · obtain ⟨rfl, rfl⟩ := here
      rw [set, if_pos on, pixel, if_pos on, if_pos ⟨on, rfl, rfl⟩]
      simp [place_lt on]
    · rw [if_neg fun h => here h.2, set, if_pos on]
      by_cases inside : OnGrid px py
      · have apart : y * width + x ≠ py * width + px := fun same =>
          here (by have := (place_inj on inside).1 same; omega)
        rw [pixel, if_pos inside, pixel, if_pos inside]
        simp [apart]
      · rw [pixel_of_not_onGrid inside, pixel_of_not_onGrid inside]
  · rw [set, if_neg on, if_neg fun h => on h.1]

/-- Inverting a pixel of the grid inverts that pixel and no other. -/
theorem pixel_toggle (s : Screen) (x y px py : Nat) :
    (s.toggle x y).pixel px py =
      (s.pixel px py ^^ decide (OnGrid px py ∧ px = x ∧ py = y)) := by
  rw [toggle, pixel_set]
  by_cases here : px = x ∧ py = y
  · obtain ⟨rfl, rfl⟩ := here
    by_cases on : OnGrid px py
    · simp [on]
    · simp [on]
  · rw [if_neg fun h => here h.2]
    simp [here]

/-- Screens that show the same are the same. -/
theorem eq_of_pixel {s t : Screen} (h : ∀ x y, OnGrid x y → s.pixel x y = t.pixel x y) :
    s = t := by
  cases s with | mk a => cases t with | mk b =>
  congr 1
  apply Vector.ext
  intro i hi
  have on : OnGrid (i % 64) (i / 64) := ⟨Nat.mod_lt _ (by decide), by simp only [height]; omega⟩
  have place : i / 64 * width + i % 64 = i := by simp only [width]; omega
  have same := h _ _ on
  rw [pixel, if_pos on, pixel, if_pos on, place] at same
  simpa [hi] using same

end Screen

end Chip8
