import Chip8.Machine

/-!
# What each instruction does

One state is turned into the next, family by family.  The program counter has moved past the
word already, so only jumps, calls, returns and skips touch it.  Where an instruction has a
result and a flag, the result is written first: in `VF` the flag stays.

Four families read or write a range of memory at the index, and one takes from the call stack.
These can fail, and they are given as one effect after the other: an effect that fails leaves
behind what was done before it.

## Main definitions

* `Machine.perform` — the effect of an instruction
* `Machine.skipWhen`, `Machine.writeResult`, `Machine.shiftOperand` — what several families share
* `Machine.numbersHeldKey` — whether the key that a byte numbers is held
* `Machine.Effect` — what is done to the machine and may fail on the way
* `Machine.returnFromCall`, `Machine.drawAtIndex`, `Machine.storeDigits`, `Machine.storeBlock`,
  `Machine.loadBlock` — the families that can fail
-/

namespace Chip8.Machine

/-- The state with `value` in the register `X`. -/
def writeX (m : Machine) (w : Word) (value : UInt8) : Machine :=
  { m with registers := m.registers.write w.x value }

/-- Passes over the next word if the condition holds. -/
def skipWhen (m : Machine) (condition : Bool) : Machine :=
  if condition then { m with pc := m.pc + 2 } else m

/-- The content of the flag register for a condition. -/
def flagByte (condition : Bool) : UInt8 :=
  if condition then 1 else 0

/-- The state with `value` in the register `X` and then the flag in `VF`. -/
def writeResult (m : Machine) (w : Word) (value flag : UInt8) : Machine :=
  { m with registers := (m.registers.write w.x value).write Register.flag flag }

/-- The byte that a shift works on. -/
def shiftOperand (m : Machine) (w : Word) : UInt8 :=
  match m.mode with
  | .chip8 => m.vy w
  | .superChip => m.vx w

/-- Whether `number` is the number of a key and that key is held. -/
def numbersHeldKey (m : Machine) (number : UInt8) : Bool :=
  match Key.ofIndex number with
  | .ok key => m.keypad.isHeld key
  | .error _ => false

/-- The hundreds, tens and units of a byte. -/
def decimalDigits (value : UInt8) : List UInt8 :=
  [value / 100, value / 10 % 10, value % 10]

/-- The index after a block transfer of `count` bytes. -/
def nextIndex (m : Machine) (count : Nat) : UInt16 :=
  match m.mode with
  | .chip8 => m.index + UInt16.ofNat count
  | .superChip => m.index

/-- The number of bytes of a block transfer: `V0` to `VX`, both included. -/
def transferCount (w : Word) : Nat :=
  w.x.val + 1

/-- Something that is done to the machine.  If it fails, the state is as far as it came. -/
abbrev Effect := EStateM Error Machine

/-- Takes the last return address off the call stack, if there is one. -/
def popAddress : Effect (Option UInt16) :=
  modifyGet fun m => (m.stack.head?, { m with stack := m.stack.tail })

/-- The `count` bytes at the index. -/
def readAtIndex (count : Nat) : Effect (List UInt8) := do
  let m ← get
  MonadExcept.ofExcept (m.memory.slice m.index.toNat count)

/-- Writes `bytes` to memory at the index. -/
def writeAtIndex (bytes : List UInt8) : Effect Unit := do
  let m ← get
  let memory ← MonadExcept.ofExcept (m.memory.store m.index.toNat bytes)
  set { m with memory := memory }

/-- Moves the index behind a block of `count` bytes, if the mode asks for it. -/
def advanceIndex (count : Nat) : Effect Unit :=
  modify fun m => { m with index := m.nextIndex count }

/-- Continues at the last return address. -/
def returnFromCall : Effect Unit := do
  match ← popAddress with
  | none => throw .stackUnderflow
  | some address => modify fun m => { m with pc := address }

/-- Draws the sprite at the index; the flag tells of a collision. -/
def drawAtIndex (w : Word) : Effect Unit := do
  let m ← get
  let sprite ← readAtIndex w.n
  let drawn := m.screen.draw (m.vx w).toNat (m.vy w).toNat sprite
  modify fun m => { m with screen := drawn.1 }
  modify fun m => { m with registers := m.registers.write Register.flag (flagByte drawn.2) }

/-- Writes the decimal digits of `VX` at the index. -/
def storeDigits (w : Word) : Effect Unit := do
  let m ← get
  writeAtIndex (decimalDigits (m.vx w))

/-- Writes `V0` to `VX` at the index. -/
def storeBlock (w : Word) : Effect Unit := do
  let m ← get
  writeAtIndex (m.registers.lowest (transferCount w))
  advanceIndex (transferCount w)

/-- Reads `V0` to `VX` from the index on. -/
def loadBlock (w : Word) : Effect Unit := do
  let values ← readAtIndex (transferCount w)
  modify fun m => { m with registers := m.registers.load values }
  advanceIndex (transferCount w)

/-- The effect of the instruction `w` of the family `opcode`.  The random byte is used by
`.random` alone. -/
def perform (m : Machine) (opcode : Opcode) (w : Word) (byte : UInt8) :
    EStateM.Result Error Machine Unit :=
  match opcode with
  | .machineRoutine => .ok () m
  | .clearScreen => .ok () { m with screen := .blank }
  | .subroutineReturn => returnFromCall m
  | .jump => .ok () { m with pc := w.nnn }
  | .subroutineCall => .ok () { m with stack := m.pc :: m.stack, pc := w.nnn }
  | .skipEqX => .ok () (m.skipWhen (m.vx w = w.nn))
  | .skipNeqX => .ok () (m.skipWhen (m.vx w ≠ w.nn))
  | .skipXEqY => .ok () (m.skipWhen (m.vx w = m.vy w))
  | .setImmediate => .ok () (m.writeX w w.nn)
  | .add => .ok () (m.writeX w (m.vx w + w.nn))
  | .setXToY => .ok () (m.writeX w (m.vy w))
  | .binaryOr => .ok () (m.writeX w (m.vx w ||| m.vy w))
  | .binaryAnd => .ok () (m.writeX w (m.vx w &&& m.vy w))
  | .logicalXor => .ok () (m.writeX w (m.vx w ^^^ m.vy w))
  | .binaryAdd =>
    .ok () (m.writeResult w (m.vx w + m.vy w) (flagByte (255 < (m.vx w).toNat + (m.vy w).toNat)))
  | .subtractYFromX =>
    .ok () (m.writeResult w (m.vx w - m.vy w) (flagByte (m.vy w ≤ m.vx w)))
  | .rightShift =>
    .ok () (m.writeResult w (m.shiftOperand w >>> 1) (m.shiftOperand w &&& 1))
  | .subtractXFromY =>
    .ok () (m.writeResult w (m.vy w - m.vx w) (flagByte (m.vx w ≤ m.vy w)))
  | .leftShift =>
    .ok () (m.writeResult w (m.shiftOperand w <<< 1) (m.shiftOperand w >>> 7))
  | .skipXNeqY => .ok () (m.skipWhen (m.vx w ≠ m.vy w))
  | .setIndex => .ok () { m with index := w.nnn }
  | .jumpWithOffset => .ok () { m with pc := w.nnn + (m.registers.read 0).toUInt16 }
  | .random => .ok () (m.writeX w (byte &&& w.nn))
  | .draw => drawAtIndex w m
  | .skipIfKeyPressed => .ok () (m.skipWhen (m.numbersHeldKey (m.vx w)))
  | .skipIfKeyNotPressed => .ok () (m.skipWhen (!m.numbersHeldKey (m.vx w)))
  | .setVxFromTimer => .ok () (m.writeX w m.delayTimer)
  | .getKey => .ok () { m with keypad := m.keypad.await w.x }
  | .setDelayTimer => .ok () { m with delayTimer := m.vx w }
  | .setSoundTimer => .ok () { m with soundTimer := m.vx w }
  | .addToIndex => .ok () { m with index := m.index + (m.vx w).toUInt16 }
  | .fontChar =>
    .ok () { m with index := UInt16.ofNat (Memory.glyphAddress ((m.vx w).toNat % 16)) }
  | .binaryCodedDecimal => storeDigits w m
  | .store => storeBlock w m
  | .load => loadBlock w m

end Chip8.Machine
