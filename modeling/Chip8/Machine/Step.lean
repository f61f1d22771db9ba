import Chip8.Log
import Chip8.Machine.Perform
import Chip8.Opcode.Table

/-!
# Steps

A step fetches the word under the program counter, moves the counter past it and executes it.
A machine that has come to its end or waits for a key fetches nothing.  The word zero ends the
program, and the counter stays on it.  If the instruction fails, the counter is put back on it.

The random byte a step may need is an argument; `Chip8.Run` takes it from a stream.

## Main definitions

* `Machine.nextWord` — the word under the program counter
* `Machine.execute` — executing a word that has been fetched
* `Machine.step` — one cycle
-/

namespace Chip8.Machine

/-- The word under the program counter. -/
def nextWord (m : Machine) : Except Error Word :=
  m.memory.wordAt m.pc.toNat

/-- What is reported before an instruction takes effect, and so also if it fails. -/
def announcement (opcode : Opcode) (w : Word) : List Event :=
  .executing w opcode :: if opcode = .machineRoutine then [.routineIgnored w.nnn] else []

/-- Executes a word that has been fetched already.  A word of no family changes nothing. -/
def execute (m : Machine) (w : Word) (byte : UInt8) : Reply Machine (Except Error Outcome) :=
  match Opcode.decode w with
  | none => ⟨.ok (.unknownWord w), m, [.unknownWord w m.pc]⟩
  | some opcode =>
    match m.perform opcode w byte with
    | .ok () next => ⟨.ok (.executed opcode), next, announcement opcode w⟩
    | .error e left => ⟨.error e, left, announcement opcode w⟩

/-- Executes the word under the program counter, which moves past it first and comes back if the
instruction fails. -/
def advance (m : Machine) (w : Word) (byte : UInt8) : Reply Machine (Except Error Outcome) :=
  let reply := { m with pc := m.pc + 2 }.execute w byte
  match reply.result with
  | .ok _ => reply
  | .error _ => { reply with state := { reply.state with pc := m.pc } }

/-- One cycle of the machine. -/
def step (m : Machine) (byte : UInt8) : Reply Machine (Except Error Outcome) :=
  if m.halted then ⟨.ok .halted, m, []⟩
  else
    match m.awaiting with
    | some target => ⟨.ok (.awaitingKey target), m, []⟩
    | none =>
      match m.nextWord with
      | .error e => ⟨.error e, m, []⟩
      | .ok w =>
        if w = 0 then ⟨.ok .halted, { m with halted := true }, [.zeroWordFetched m.pc]⟩
        else m.advance w byte

theorem step_of_halted {m : Machine} (h : m.halted = true) (byte : UInt8) :
    m.step byte = ⟨.ok .halted, m, []⟩ := by
  simp [step, h]

theorem step_of_awaiting {m : Machine} {target : Register} (running : m.halted = false)
    (h : m.awaiting = some target) (byte : UInt8) :
    m.step byte = ⟨.ok (.awaitingKey target), m, []⟩ := by
  simp [step, running, h]

theorem step_of_nextWord_error {m : Machine} {e : Error} (running : m.halted = false)
    (free : m.awaiting = none) (h : m.nextWord = .error e) (byte : UInt8) :
    m.step byte = ⟨.error e, m, []⟩ := by
  simp [step, running, free, h]

theorem step_of_nextWord_zero {m : Machine} (running : m.halted = false)
    (free : m.awaiting = none) (h : m.nextWord = .ok 0) (byte : UInt8) :
    m.step byte = ⟨.ok .halted, { m with halted := true }, [.zeroWordFetched m.pc]⟩ := by
  simp [step, running, free, h]

theorem step_of_nextWord {m : Machine} {w : Word} (running : m.halted = false)
    (free : m.awaiting = none) (h : m.nextWord = .ok w) (nonzero : w ≠ 0) (byte : UInt8) :
    m.step byte = m.advance w byte := by
  simp [step, running, free, h, nonzero]

end Chip8.Machine
