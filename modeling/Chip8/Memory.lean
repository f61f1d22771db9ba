import Chip8.Block
import Chip8.Error
import Chip8.Word

/-!
# Memory

The address space: 4096 bytes.  Addresses are natural numbers, and every access to a byte that
does not exist is refused with the address where it went wrong.  An empty range may stand right
behind the last byte but not further out.

## Main definitions

* `Memory.byte` — the byte at an address, zero outside: the view all laws are stated with
* `Memory.read`, `Memory.write`, `Memory.wordAt` — single accesses
* `Memory.slice`, `Memory.store`, `Memory.fill` — reading and writing ranges
* `Memory.overwrite` — writing a list of bytes without a check; what does not fit is dropped
-/

namespace Chip8

/-- The contents of the address space. -/
structure Memory where
  cells : Vector UInt8 4096
deriving DecidableEq

namespace Memory

/-- The number of bytes. -/
abbrev size : Nat := 4096

/-- All bytes are zero. -/
def zeroed : Memory :=
  ⟨Vector.replicate 4096 0⟩

/-- The byte at `a`, and zero where there is none. -/
def byte (m : Memory) (a : Nat) : UInt8 :=
  (m.cells[a]?).getD 0

/-- The memory with `bytes` written from `a` on; what would fall outside is dropped. -/
def overwrite (m : Memory) (a : Nat) (bytes : List UInt8) : Memory :=
  ⟨Block.overwrite m.cells a bytes⟩

/-- The byte at `a`. -/
def read (m : Memory) (a : Nat) : Except Error UInt8 :=
  if a < size then .ok (m.byte a) else .error (.memoryFault a)

/-- The memory with `value` at `a`. -/
def write (m : Memory) (a : Nat) (value : UInt8) : Except Error Memory :=
  if a < size then .ok (m.overwrite a [value]) else .error (.memoryFault a)

/-- The word whose upper byte is at `a` and whose lower byte follows. -/
def wordAt (m : Memory) (a : Nat) : Except Error Word :=
  match m.read a with
  | .error e => .error e
  | .ok upper =>
    match m.read (a + 1) with
    | .error e => .error e
    | .ok lower => .ok (.ofBytes upper lower)

/-- The fault of a range from `a` on that is not inside the memory: the first of its addresses
that does not exist, or `a` itself if that lies further out. -/
def rangeFault (a : Nat) : Error :=
  .memoryFault (max a size)

/-- The `count` bytes from `a` on. -/
def slice (m : Memory) (a count : Nat) : Except Error (List UInt8) :=
  if a + count ≤ size then .ok ((List.range count).map fun i => m.byte (a + i))
  else .error (rangeFault a)

/-- The memory with `bytes` from `a` on, all of them or none. -/
def store (m : Memory) (a : Nat) (bytes : List UInt8) : Except Error Memory :=
  if a + bytes.length ≤ size then .ok (m.overwrite a bytes) else .error (rangeFault a)

/-- The memory with `value` in all of the `count` bytes from `a` on. -/
def fill (m : Memory) (a count : Nat) (value : UInt8) : Except Error Memory :=
  if a + count ≤ size then .ok (m.overwrite a (List.replicate count value))
  else .error (rangeFault a)

@[simp] theorem byte_zeroed (a : Nat) : zeroed.byte a = 0 := by
  by_cases h : a < 4096 <;> simp [byte, zeroed, h]

/-- The bytes of the list stand where they were written, as far as the memory reaches, and the
other bytes are what they were. -/
theorem byte_overwrite (m : Memory) (a : Nat) (bytes : List UInt8) (i : Nat) :
    (m.overwrite a bytes).byte i =
      if i < size ∧ a ≤ i ∧ i < a + bytes.length then (bytes[i - a]?).getD 0
      else m.byte i := by
  simp only [byte, overwrite, Block.getElem?_overwrite, size]
  by_cases h : i < 4096 ∧ a ≤ i ∧ i < a + bytes.length
  · rw [if_pos h, if_pos h]
  · rw [if_neg h, if_neg h]

/-- Memories with the same bytes are the same. -/
theorem eq_of_byte {m n : Memory} (h : ∀ a < size, m.byte a = n.byte a) : m = n := by
  cases m with | mk a => cases n with | mk b =>
  congr 1
  apply Vector.ext
  intro i hi
  simpa [byte, hi] using h i hi

end Memory

end Chip8
