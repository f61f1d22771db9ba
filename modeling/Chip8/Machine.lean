import Chip8.Keypad
import Chip8.Memory.Program
import Chip8.Mode
import Chip8.Opcode
import Chip8.Registers
import Chip8.Screen

/-!
# The machine

A state is everything an instruction can read or write: memory, registers, program counter,
index, call stack, two timers, screen, keypad, mode, and whether the program has come to its end.

## Main definitions

* `Machine` — a state, `Machine.powerOn` — the first one
* `Machine.status`, `Machine.sounding` — what a state shows at a glance
* `Outcome` — what a step did, `Outcome.proceeds` and `Outcome.continues` — what may follow
-/

namespace Chip8

/-- The state of the machine. -/
structure Machine where
  memory : Memory
  registers : Registers
  /-- The address of the next word. -/
  pc : UInt16
  /-- The address register `I`. -/
  index : UInt16
  /-- The return addresses, the last one first. -/
  stack : List UInt16
  delayTimer : UInt8
  soundTimer : UInt8
  screen : Screen
  keypad : Keypad
  mode : Mode
  /-- The program has come to its end. -/
  halted : Bool
deriving DecidableEq

/-- Whether the machine can go on, and if not, what it waits for. -/
inductive Status where
  | ready
  | awaitingInput
  | halted
deriving DecidableEq, Repr

/-- What a step did. -/
inductive Outcome where
  /-- An instruction of the family was executed. -/
  | executed (opcode : Opcode)
  /-- The register waits for a key; nothing was fetched. -/
  | awaitingKey (target : Register)
  /-- The word belongs to no family and was passed over. -/
  | unknownWord (word : Word)
  /-- The end of the program is reached. -/
  | halted
deriving DecidableEq, Repr

namespace Outcome

/-- The program has not come to its end. -/
def continues (o : Outcome) : Bool :=
  o ≠ .halted

/-- The step moved on to another word, so the next one may be taken at once. -/
def proceeds : Outcome → Bool
  | .executed _ | .unknownWord _ => true
  | .awaitingKey _ | .halted => false

end Outcome

namespace Machine

/-- The state at power-on: the font in an otherwise empty memory, and the program counter where
programs start. -/
def powerOn : Machine where
  memory := Memory.zeroed.withFont
  registers := .zeroed
  pc := UInt16.ofNat Memory.entry
  index := 0
  stack := []
  delayTimer := 0
  soundTimer := 0
  screen := .blank
  keypad := .idle
  mode := .superChip
  halted := false

/-- The register that waits for a key. -/
def awaiting (m : Machine) : Option Register :=
  m.keypad.awaiting

/-- Whether the machine can go on.  The end of the program comes first. -/
def status (m : Machine) : Status :=
  if m.halted then .halted else if m.awaiting.isSome then .awaitingInput else .ready

/-- The tone sounds while the sound timer has not run down. -/
def sounding (m : Machine) : Bool :=
  m.soundTimer > 0

/-- The content of the register `X` of an instruction. -/
def vx (m : Machine) (w : Word) : UInt8 :=
  m.registers.read w.x

/-- The content of the register `Y` of an instruction. -/
def vy (m : Machine) (w : Word) : UInt8 :=
  m.registers.read w.y

end Machine

end Chip8
