import Chip8.Error
import Chip8.Word

/-!
# Keypad

Sixteen keys, each held or not, and a latch: an instruction may wait for a key, and the next key
to go down names the register that was waiting for it.

## Main definitions

* `Key.ofIndex`, `Key.name` — keys by number, and their names
* `Keypad` — which keys are held, and the register that awaits one
* `Keypad.press`, `Keypad.release` — a key goes down or up
* `Keypad.await`, `Keypad.dropWait` — setting and dropping the latch
-/

namespace Chip8

/-- One of the sixteen hexadecimal keys. -/
abbrev Key := Fin 16

namespace Key

/-- The key with the number `index`. -/
def ofIndex (index : UInt8) : Except Error Key :=
  if h : index.toNat < 16 then .ok ⟨index.toNat, h⟩ else .error (.invalidKey index)

/-- The number of a key as a byte. -/
def index (k : Key) : UInt8 :=
  UInt8.ofNat k.val

/-- `Key` and the number as one hexadecimal digit. -/
def name (k : Key) : String :=
  String.ofList ['K', 'e', 'y', Numeral.hexDigit k.val]

theorem val_lt (k : Key) : k.val < 16 :=
  k.isLt

theorem toNat_index (k : Key) : (index k).toNat = k.val :=
  UInt8.toNat_ofNat_of_lt' (Nat.lt_trans k.isLt (by decide))

end Key

/-- The held keys and the latch of a key wait. -/
structure Keypad where
  held : Vector Bool 16
  /-- The register that the next key to go down is written to. -/
  awaiting : Option Register
deriving DecidableEq

namespace Keypad

/-- No key is held and nothing waits. -/
def idle : Keypad :=
  ⟨Vector.replicate 16 false, none⟩

/-- Whether a key is held. -/
def isHeld (pad : Keypad) (k : Key) : Bool :=
  pad.held[k.val]

/-- A key goes down.  A pending wait ends, and its register is returned. -/
def press (pad : Keypad) (k : Key) : Option Register × Keypad :=
  (pad.awaiting, ⟨pad.held.set k.val true, none⟩)

/-- A key goes up; a pending wait goes on. -/
def release (pad : Keypad) (k : Key) : Keypad :=
  { pad with held := pad.held.set k.val false }

/-- From now on the register `target` waits for a key. -/
def await (pad : Keypad) (target : Register) : Keypad :=
  { pad with awaiting := some target }

/-- Nothing waits any more. -/
def dropWait (pad : Keypad) : Keypad :=
  { pad with awaiting := none }

@[simp] theorem isHeld_idle (k : Key) : idle.isHeld k = false := by
  simp [isHeld, idle]

theorem isHeld_press (pad : Keypad) (k l : Key) :
    (pad.press k).2.isHeld l = (decide (l = k) || pad.isHeld l) := by
  by_cases h : l = k
  · simp [isHeld, press, h]
  · have : k.val ≠ l.val := fun same => h (Fin.ext same.symm)
    simp [isHeld, press, h, this]

theorem isHeld_release (pad : Keypad) (k l : Key) :
    (pad.release k).isHeld l = (!decide (l = k) && pad.isHeld l) := by
  by_cases h : l = k
  · simp [isHeld, release, h]
  · have : k.val ≠ l.val := fun same => h (Fin.ext same.symm)
    simp [isHeld, release, h, this]

@[simp] theorem isHeld_dropWait (pad : Keypad) (k : Key) :
    pad.dropWait.isHeld k = pad.isHeld k := rfl

/-- Keypads with the same held keys and the same latch are the same. -/
theorem eq_of_isHeld {a b : Keypad} (held : ∀ k, a.isHeld k = b.isHeld k)
    (latch : a.awaiting = b.awaiting) : a = b := by
  cases a with | mk ha wa => cases b with | mk hb wb =>
  congr 1
  apply Vector.ext
  intro i hi
  exact held ⟨i, hi⟩

end Keypad

end Chip8
