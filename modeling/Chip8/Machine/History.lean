import Chip8.Machine.Control
import Chip8.Machine.Step

/-!
# Histories

Everything that can be done to the machine, as data, so that laws about whole runs can speak of a
list of operations.  A history is recorded as a list of moments: the state before each operation,
the operation, and what it gave back.

## Main definitions

* `Operation` — one thing done to the machine
* `Operation.isStep` — the operations that laws often count
* `Operation.isDirect`, `Operation.isRestart`, `Operation.isPoke` — kinds of operations that laws
  often leave out
* `Machine.apply` — doing it
* `Machine.after` — the state after a list of operations
* `Moment`, `Machine.history` — the record of a list of operations
* `Moment.executed` — the instruction family of a step
-/

namespace Chip8

/-- One thing done to the machine. -/
inductive Operation where
  /-- A cycle with the random byte it may use. -/
  | step (byte : UInt8)
  /-- A word executed without being fetched. -/
  | execute (w : Word) (byte : UInt8)
  | clock
  | keyDown (k : Key)
  | keyUp (k : Key)
  | setRegister (r : Register) (value : UInt8)
  | setMode (mode : Mode)
  | reset (clearMemory : Bool)
  | load (image : List UInt8)
  /-- A write to memory from outside. -/
  | poke (a : Nat) (bytes : List UInt8)
deriving DecidableEq, Repr

namespace Operation

/-- A cycle of the machine. -/
def isStep : Operation → Bool
  | .step _ => true
  | _ => false

/-- A word is executed that was not fetched. -/
def isDirect : Operation → Bool
  | .execute .. => true
  | _ => false

/-- The machine starts over. -/
def isRestart : Operation → Bool
  | .reset _ | .load _ => true
  | _ => false

/-- Memory is written from outside. -/
def isPoke : Operation → Bool
  | .poke .. => true
  | _ => false

end Operation

/-- An operation in a history. -/
structure Moment where
  before : Machine
  operation : Operation
  /-- What a step or a word gave back. -/
  result : Option (Except Error Outcome)
  after : Machine

/-- The family of the instruction that a step executed, if it executed one. -/
def Moment.executed (moment : Moment) : Option Opcode :=
  match moment.operation, moment.result with
  | .step _, some (.ok (.executed opcode)) => some opcode
  | _, _ => none

namespace Machine

/-- Does one thing to the machine.  Only a step and the execution of a word have a result. -/
def apply (m : Machine) : Operation → Reply Machine (Option (Except Error Outcome))
  | .step byte =>
    let reply := m.step byte
    ⟨some reply.result, reply.state, reply.log⟩
  | .execute w byte =>
    let reply := m.execute w byte
    ⟨some reply.result, reply.state, reply.log⟩
  | .clock => ⟨none, m.tick, []⟩
  | .keyDown k => ⟨none, (m.keyDown k).state, (m.keyDown k).log⟩
  | .keyUp k => ⟨none, m.keyUp k, []⟩
  | .setRegister r value => ⟨none, m.setRegister r value, []⟩
  | .setMode mode => ⟨none, m.setMode mode, []⟩
  | .reset clearMemory => ⟨none, (m.reset clearMemory).state, (m.reset clearMemory).log⟩
  | .load image => ⟨none, (m.load image).state, (m.load image).log⟩
  | .poke a bytes => ⟨none, m.poke a bytes, []⟩

/-- The state after a list of operations. -/
def after (m : Machine) (operations : List Operation) : Machine :=
  operations.foldl (fun state operation => (state.apply operation).state) m

/-- The record of one operation. -/
def moment (m : Machine) (operation : Operation) : Moment :=
  let reply := m.apply operation
  ⟨m, operation, reply.result, reply.state⟩

/-- The record of a list of operations. -/
def history (m : Machine) : List Operation → List Moment
  | [] => []
  | operation :: rest => m.moment operation :: (m.apply operation).state.history rest

@[simp] theorem after_nil (m : Machine) : m.after [] = m := rfl

@[simp] theorem after_cons (m : Machine) (operation : Operation) (rest : List Operation) :
    m.after (operation :: rest) = (m.apply operation).state.after rest := rfl

theorem after_append (m : Machine) (first second : List Operation) :
    m.after (first ++ second) = (m.after first).after second := by
  simp [after]

/-- What each operation keeps, the list keeps. -/
theorem after_invariant {P : Machine → Prop} {m : Machine} {operations : List Operation}
    (start : P m) (keep : ∀ operation ∈ operations, ∀ state : Machine, P state →
      P (state.apply operation).state) : P (m.after operations) := by
  induction operations generalizing m with
  | nil => exact start
  | cons operation rest ih =>
    have first := keep operation List.mem_cons_self m start
    exact ih first fun later mem => keep later (List.mem_cons_of_mem _ mem)

theorem history_append (m : Machine) (first second : List Operation) :
    m.history (first ++ second) = m.history first ++ (m.after first).history second := by
  induction first generalizing m with
  | nil => rfl
  | cons operation rest ih => simp [history, ih]

theorem history_concat (m : Machine) (operations : List Operation) (last : Operation) :
    m.history (operations ++ [last]) = m.history operations ++ [(m.after operations).moment last] :=
  history_append m operations [last]

theorem after_concat (m : Machine) (operations : List Operation) (last : Operation) :
    m.after (operations ++ [last]) = ((m.after operations).apply last).state :=
  after_append m operations [last]

end Machine

end Chip8
