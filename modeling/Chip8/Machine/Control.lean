import Chip8.Log
import Chip8.Machine

/-!
# Controls

What is done to the machine from outside: resetting it, loading a program, pressing and
releasing keys, ticking the timers, and changing a register, the mode or the memory.

## Main definitions

* `Machine.reset`, `Machine.load`, `Machine.loadFile` — starting over
* `Machine.keyDown`, `Machine.keyUp` — the keypad
* `Machine.tick` — one tick of both timers
* `Machine.setRegister`, `Machine.setMode`, `Machine.poke` — changing a part of the state
-/

namespace Chip8.Machine

/-- The power-on state, except that held keys are kept, and the memory too unless it is to be
cleared. -/
def afterReset (m : Machine) (clearMemory : Bool) : Machine :=
  { powerOn with
    memory := if clearMemory then powerOn.memory else m.memory
    keypad := m.keypad.dropWait }

/-- Goes back to the power-on state.  Held keys are kept; a wait for a key is dropped. -/
def reset (m : Machine) (clearMemory : Bool) : Reply Machine Unit :=
  ⟨(), m.afterReset clearMemory, [.machineReset clearMemory]⟩

/-- Resets the machine with its memory and copies a program image to where programs start.  What
does not fit is cut off; the result is the number of bytes loaded. -/
def load (m : Machine) (image : List UInt8) : Reply Machine Nat :=
  let cleared := m.afterReset true
  let memory := cleared.memory.withProgram image
  let loaded := Memory.loadedLength image
  ⟨loaded, { cleared with memory := memory },
    [.machineReset true] ++
    (if loaded < image.length then [.imageTruncated image.length loaded] else []) ++
    [.programLoaded loaded, .memoryAfterLoad memory]⟩

/-- Loads the program image in the file at `path`, whose contents are `none` if it cannot be
read; the machine stays as it is then. -/
def loadFile (m : Machine) (path : String) (contents : Option (List UInt8)) :
    Reply Machine (Except Error Nat) :=
  match contents with
  | none => ⟨.error (.loadFailure path), m, []⟩
  | some image =>
    let reply := m.load image
    ⟨.ok reply.result, reply.state, reply.log⟩

/-- A key goes down.  If a register waits for a key, it gets the number of this one. -/
def keyDown (m : Machine) (k : Key) : Reply Machine Unit :=
  match m.keypad.press k with
  | (none, keypad) => ⟨(), { m with keypad := keypad }, []⟩
  | (some target, keypad) =>
    ⟨(), { m with keypad := keypad, registers := m.registers.write target (Key.index k) },
      [.keyWaitSatisfied k target]⟩

/-- A key that goes down is pressed at the keypad, and may change a register. -/
theorem keyDown_state (m : Machine) (k : Key) :
    (m.keyDown k).state = { m with
      keypad := (m.keypad.press k).2
      registers := (m.keyDown k).state.registers } := by
  rw [keyDown]
  split <;> next found => rw [found]

/-- A key goes up. -/
def keyUp (m : Machine) (k : Key) : Machine :=
  { m with keypad := m.keypad.release k }

/-- One less, but not below zero. -/
def countDown (timer : UInt8) : UInt8 :=
  if timer = 0 then 0 else timer - 1

/-- One tick of both timers. -/
def tick (m : Machine) : Machine :=
  { m with delayTimer := countDown m.delayTimer, soundTimer := countDown m.soundTimer }

/-- The state with `value` in the register `r`. -/
def setRegister (m : Machine) (r : Register) (value : UInt8) : Machine :=
  { m with registers := m.registers.write r value }

/-- The state in the given mode. -/
def setMode (m : Machine) (mode : Mode) : Machine :=
  { m with mode := mode }

/-- The state with `bytes` in memory from `a` on. -/
def poke (m : Machine) (a : Nat) (bytes : List UInt8) : Machine :=
  { m with memory := m.memory.overwrite a bytes }

@[simp] theorem toNat_countDown (timer : UInt8) : (countDown timer).toNat = timer.toNat - 1 := by
  by_cases h : timer = 0
  · simp [countDown, h]
  · have positive : timer.toNat ≠ 0 := fun zero => h (UInt8.toNat_inj.1 zero)
    have := timer.toNat_lt
    rw [countDown, if_neg h, UInt8.toNat_sub]
    simp only [UInt8.reduceToNat]
    omega

end Chip8.Machine
