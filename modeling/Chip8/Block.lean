/-!
# Blocks of cells

Memory and registers are vectors of cells, and both are the target of block transfers: a list of
values is written to consecutive cells.

## Main definitions

* `Block.overwrite` — writing a list of values from one place on

`getElem?_overwrite` gives the cell at every place afterwards.
-/

namespace Chip8.Block

variable {α : Type} {size : Nat}

/-- The cells with `items` written from place `start` on; what would fall outside is dropped. -/
def overwrite (cells : Vector α size) (start : Nat) : List α → Vector α size
  | [] => cells
  | item :: rest => overwrite (cells.setIfInBounds start item) (start + 1) rest

/-- A cell inside the block holds its item, every other cell what it held before. -/
theorem getElem?_overwrite (cells : Vector α size) (start : Nat) (items : List α) (i : Nat) :
    (overwrite cells start items)[i]? =
      if i < size ∧ start ≤ i ∧ i < start + items.length then items[i - start]?
      else cells[i]? := by
  induction items generalizing cells start with
  | nil =>
    have outside : ¬ (i < size ∧ start ≤ i ∧ i < start + 0) := by omega
    simp only [overwrite, List.length_nil, outside, if_false]
  | cons item rest ih =>
    rw [overwrite, ih, Vector.getElem?_setIfInBounds]
    by_cases below : i < size
    · rcases Nat.lt_trichotomy i start with h | h | h
      · have : ¬ start ≤ i := by omega
        have : ¬ start + 1 ≤ i := by omega
        have : ¬ start = i := by omega
        simp [*]
      · subst h
        have : ¬ i + 1 ≤ i := by omega
        simp [*]
      · have shift : i - start = (i - (start + 1)) + 1 := by omega
        have : start ≤ i := by omega
        have : start + 1 ≤ i := by omega
        have : ¬ start = i := by omega
        have same : i < start + (rest.length + 1) ↔ i < start + 1 + rest.length := by omega
        simp [*]
    · by_cases h : start = i <;> simp [below, h]

end Chip8.Block
