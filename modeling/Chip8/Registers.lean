import Chip8.Block
import Chip8.Word

/-!
# Registers

The machine computes with sixteen registers of one byte, `V0` to `VF`.  `VF` doubles as the flag
of arithmetic and drawing.

## Main definitions

* `Register.ofIndex`, `Register.name` — registers by number, and their names
* `Registers` — the contents of all sixteen
* `Registers.read`, `Registers.write` — one register
* `Registers.lowest`, `Registers.load` — the block transfers, which start at `V0`
-/

namespace Chip8

namespace Register

/-- The register numbered by the low nibble of `index`. -/
def ofIndex (index : UInt8) : Register :=
  Fin.ofNat 16 index.toNat

/-- The flag register. -/
def flag : Register := 15

/-- `V` and the number as one hexadecimal digit. -/
def name (r : Register) : String :=
  String.ofList ['V', Numeral.hexDigit r.val]

end Register

/-- The contents of the sixteen registers. -/
structure Registers where
  cells : Vector UInt8 16
deriving DecidableEq

namespace Registers

/-- All registers hold zero. -/
def zeroed : Registers :=
  ⟨Vector.replicate 16 0⟩

/-- The content of a register. -/
def read (rs : Registers) (r : Register) : UInt8 :=
  rs.cells[r.val]

/-- The registers with `value` in `r`. -/
def write (rs : Registers) (r : Register) (value : UInt8) : Registers :=
  ⟨rs.cells.set r.val value⟩

/-- The contents in the order of the numbers. -/
def toList (rs : Registers) : List UInt8 :=
  rs.cells.toList

/-- The contents of the `count` lowest registers. -/
def lowest (rs : Registers) (count : Nat) : List UInt8 :=
  rs.toList.take count

/-- The registers with `values` in the lowest ones, from `V0` on. -/
def load (rs : Registers) (values : List UInt8) : Registers :=
  ⟨Block.overwrite rs.cells 0 values⟩

theorem read_write (rs : Registers) (r s : Register) (value : UInt8) :
    (rs.write r value).read s = if s = r then value else rs.read s := by
  by_cases h : s = r
  · simp [read, write, h]
  · have : r.val ≠ s.val := fun same => h (Fin.ext same.symm)
    simp [read, write, h, this]

@[simp] theorem read_write_self (rs : Registers) (r : Register) (value : UInt8) :
    (rs.write r value).read r = value := by
  simp [read_write]

theorem read_write_of_ne {r s : Register} (h : s ≠ r) (rs : Registers) (value : UInt8) :
    (rs.write r value).read s = rs.read s := by
  simp [read_write, h]

/-- Registers with the same contents are the same. -/
theorem eq_of_read {rs ss : Registers} (h : ∀ r, rs.read r = ss.read r) : rs = ss := by
  cases rs with | mk a => cases ss with | mk b =>
  congr 1
  apply Vector.ext
  intro i hi
  exact h ⟨i, hi⟩

/-- Of two values written to a register the last one stays. -/
theorem write_write (rs : Registers) (r : Register) (first second : UInt8) :
    (rs.write r first).write r second = rs.write r second := by
  apply eq_of_read
  intro s
  simp only [read_write]
  split <;> rfl

theorem toList_getElem? (rs : Registers) (r : Register) :
    rs.toList[r.val]? = some (rs.read r) := by
  simp [toList, read]

/-- Loading writes the first registers, as many as there are values. -/
theorem read_load (rs : Registers) (values : List UInt8) (r : Register) :
    (rs.load values).read r = (values[r.val]?).getD (rs.read r) := by
  have cell := Block.getElem?_overwrite rs.cells 0 values r.val
  have view (ss : Registers) : ss.read r = (ss.cells[r.val]?).getD 0 := by simp [read]
  rw [view, load, cell]
  by_cases h : r.val < values.length
  · simp [h]
  · simp [h, read]

end Registers

end Chip8
