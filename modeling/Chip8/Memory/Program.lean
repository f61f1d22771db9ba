import Chip8.Memory

/-!
# Font and program image

Two things are copied into memory: the sprites of the sixteen hexadecimal digits, five rows each,
which stand at the lowest addresses, and a program image, which starts at `0x200` and takes the
rest.

## Main definitions

* `Memory.font`, `Memory.glyphHeight`, `Memory.glyphAddress` — the digit sprites
* `Memory.withFont` — the memory with the font in place
* `Memory.entry`, `Memory.capacity` — where a program starts, and how long it may be
* `Memory.withProgram` — the memory with a program image in place, cut to the capacity
-/

namespace Chip8.Memory

/-- The rows of the digit sprites. -/
def font : List UInt8 :=
  [0xF0, 0x90, 0x90, 0x90, 0xF0,
   0x20, 0x60, 0x20, 0x20, 0x70,
   0xF0, 0x10, 0xF0, 0x80, 0xF0,
   0xF0, 0x10, 0xF0, 0x10, 0xF0,
   0x90, 0x90, 0xF0, 0x10, 0x10,
   0xF0, 0x80, 0xF0, 0x10, 0xF0,
   0xF0, 0x80, 0xF0, 0x90, 0xF0,
   0xF0, 0x10, 0x20, 0x40, 0x40,
   0xF0, 0x90, 0xF0, 0x90, 0xF0,
   0xF0, 0x90, 0xF0, 0x10, 0xF0,
   0xF0, 0x90, 0xF0, 0x90, 0x90,
   0xE0, 0x90, 0xE0, 0x90, 0xE0,
   0xF0, 0x80, 0x80, 0x80, 0xF0,
   0xE0, 0x90, 0x90, 0x90, 0xE0,
   0xF0, 0x80, 0xF0, 0x80, 0xF0,
   0xF0, 0x80, 0xF0, 0x80, 0x80]

/-- The number of rows of a digit sprite. -/
abbrev glyphHeight : Nat := 5

/-- Where the sprite of a digit starts. -/
def glyphAddress (digit : Nat) : Nat :=
  digit * glyphHeight

/-- Where a program starts. -/
abbrev entry : Nat := 512

/-- The longest program image that fits. -/
abbrev capacity : Nat := size - entry

/-- The memory with the font at the lowest addresses. -/
def withFont (m : Memory) : Memory :=
  m.overwrite 0 font

/-- The number of bytes of an image that are loaded. -/
def loadedLength (image : List UInt8) : Nat :=
  min image.length capacity

/-- The memory with as much of a program image as fits. -/
def withProgram (m : Memory) (image : List UInt8) : Memory :=
  m.overwrite entry (image.take capacity)

@[simp] theorem length_font : font.length = 80 := rfl

theorem byte_withFont (m : Memory) (a : Nat) :
    (m.withFont).byte a = (font[a]?).getD (m.byte a) := by
  rw [withFont, byte_overwrite, Nat.sub_zero]
  by_cases h : a < 80
  · have inside : a < size := Nat.lt_trans h (by decide)
    rw [List.getElem?_eq_getElem (show a < font.length from h)]
    simp [h, inside]
  · simp [h]

theorem byte_withProgram (m : Memory) (image : List UInt8) (a : Nat) :
    (m.withProgram image).byte a =
      if entry ≤ a ∧ a < entry + loadedLength image then (image[a - entry]?).getD 0
      else m.byte a := by
  rw [withProgram, byte_overwrite]
  have inside : (a < size ∧ entry ≤ a ∧ a < entry + (image.take capacity).length) ↔
      (entry ≤ a ∧ a < entry + loadedLength image) := by
    simp only [List.length_take, loadedLength, capacity, size, entry]
    omega
  simp only [inside]
  split
  · next h =>
    have : a - entry < capacity := by
      simp only [loadedLength] at h
      omega
    simp [this]
  · rfl

end Chip8.Memory
