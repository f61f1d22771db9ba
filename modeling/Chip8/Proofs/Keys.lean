import Chip8.Machine.History
import Chip8.Proofs.Cycle
import Chip8.Proofs.Effects

/-!
# The keypad in a run

Which keys are held is up to the outside: keys go down and up, and no instruction has a part in it.
The latch of a key wait is set by one family only, `FX0A`, and is cleared by the next key to go down
or by a restart.  Everything else leaves the keypad alone.

## Main statements

* `perform_keypad` — what an instruction does to the keypad
* `step_isHeld` — a step holds and releases no key
* `apply_awaiting_eq_none` — only `FX0A` begins a wait
-/

namespace Chip8.Machine

/-! ## Instructions -/

@[simp] theorem skipWhen_keypad (m : Machine) (condition : Bool) :
    (m.skipWhen condition).keypad = m.keypad := by
  cases condition <;> rfl

theorem perform_keypad {m next : Machine} {opcode : Opcode} {w : Word} {byte : UInt8}
    (effect : m.perform opcode w byte = .ok () next) :
    next.keypad = if opcode = .getKey then m.keypad.await w.x else m.keypad := by
  obtain ⟨-, rfl⟩ := perform_eq_ok_iff.mp effect
  cases opcode with
  | skipEqX | skipNeqX | skipXEqY | skipXNeqY | skipIfKeyPressed | skipIfKeyNotPressed =>
      exact skipWhen_keypad m _
  | _ => rfl

variable {m : Machine} {byte : UInt8}

/-! ## Steps -/

/-- A step that does not execute `FX0A` leaves the keypad as it was. -/
theorem step_keypad (other : (m.step byte).result ≠ .ok (.executed .getKey)) :
    (m.step byte).state.keypad = m.keypad := by
  cases m.cycle byte with
  | halted before reply | waiting _ _ before reply => rw [reply]
  | unfetched e ready fetch reply | ended ready fetch reply => rw [reply]
  | unknown w ready fetch nonzero family reply => rw [reply]
  | executed w opcode next ready fetch nonzero family effect reply =>
      rw [reply] at other ⊢
      have family_ne : opcode ≠ .getKey := fun same => other (by rw [same])
      exact (perform_keypad effect).trans (if_neg family_ne)
  | refused w opcode e left ready fetch nonzero family effect reply =>
      obtain ⟨-, rfl⟩ := perform_eq_error_iff.mp effect
      rw [reply]

/-- A step holds and releases no key. -/
@[simp] theorem step_isHeld (m : Machine) (byte : UInt8) (k : Key) :
    (m.step byte).state.keypad.isHeld k = m.keypad.isHeld k := by
  cases m.cycle byte with
  | executed w opcode next ready fetch nonzero family effect reply =>
      have keypad := perform_keypad effect
      rw [reply, keypad]
      split <;> rfl
  | halted before reply | waiting _ _ before reply => rw [reply]
  | unfetched e ready fetch reply | ended ready fetch reply => rw [reply]
  | unknown w ready fetch nonzero family reply => rw [reply]
  | refused w opcode e left ready fetch nonzero family effect reply =>
      obtain ⟨-, rfl⟩ := perform_eq_error_iff.mp effect
      rw [reply]

/-- A word that was not fetched does to the keypad what a fetched one does. -/
theorem execute_keypad {w : Word} (other : (m.execute w byte).result ≠ .ok (.executed .getKey)) :
    (m.execute w byte).state.keypad = m.keypad := by
  cases family : Opcode.decode w with
  | none => rw [execute_of_unknown family]
  | some opcode =>
      cases effect : m.perform opcode w byte with
      | ok done next =>
          rw [execute_of_ok family effect] at other ⊢
          have family_ne : opcode ≠ .getKey := fun same => other (by rw [same])
          exact (perform_keypad effect).trans (if_neg family_ne)
      | error e left =>
          obtain ⟨-, rfl⟩ := perform_eq_error_iff.mp effect
          rw [execute_of_error family effect]

/-! ## Keys from outside -/

theorem keyDown_keypad (m : Machine) (k : Key) :
    (m.keyDown k).state.keypad = (m.keypad.press k).2 := by
  rw [keyDown_state]

/-- A key that goes down while nothing waits is held from then on, and nothing else happens. -/
theorem keyDown_of_awaiting_eq_none (free : m.awaiting = none) (k : Key) :
    (m.keyDown k).state = { m with keypad := (m.keypad.press k).2 } := by
  have press : m.keypad.press k = (none, (m.keypad.press k).2) := Prod.ext free rfl
  rw [keyDown, press]

/-- A key that goes down while a register waits is written to it, and ends the wait. -/
theorem keyDown_of_awaiting {target : Register} (awaited : m.awaiting = some target) (k : Key) :
    (m.keyDown k).state = { m with
      keypad := (m.keypad.press k).2
      registers := m.registers.write target (Key.index k) } := by
  have press : m.keypad.press k = (some target, (m.keypad.press k).2) := Prod.ext awaited rfl
  rw [keyDown, press]

/-- A register that a key is written to reads its number, and the others are as they were. -/
theorem read_write_index (rs : Registers) (target : Register) (k : Key) :
    ((rs.write target (Key.index k)).read target).toNat = k.val ∧
      ∀ r, r ≠ target → (rs.write target (Key.index k)).read r = rs.read r := by
  constructor
  · rw [Registers.read_write_self, Key.toNat_index]
  · intro r other
    exact Registers.read_write_of_ne other rs (Key.index k)

/-! ## Operations -/

/-- While nothing waits, a wait begins with `FX0A` only, fetched or not. -/
theorem apply_awaiting_eq_none {operation : Operation} (free : m.awaiting = none)
    (other : (m.apply operation).result ≠ some (.ok (.executed .getKey))) :
    (m.apply operation).state.awaiting = none := by
  cases operation with
  | step byte =>
      have same : (m.step byte).state.keypad = m.keypad :=
        step_keypad fun executed => other (congrArg some executed)
      exact (congrArg Keypad.awaiting same).trans free
  | execute w byte =>
      have same : (m.execute w byte).state.keypad = m.keypad :=
        execute_keypad fun executed => other (congrArg some executed)
      exact (congrArg Keypad.awaiting same).trans free
  | keyDown k => exact congrArg Keypad.awaiting (keyDown_keypad m k)
  | reset clearMemory | load image => rfl
  | clock | keyUp k | setRegister r value | setMode mode | poke a bytes => exact free

end Chip8.Machine
