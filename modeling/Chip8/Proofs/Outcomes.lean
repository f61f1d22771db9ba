import Chip8.Machine.History
import Chip8.Proofs.Cycle
import Chip8.Proofs.Decoding
import Chip8.Proofs.Effects

/-!
# Outcomes of words

What executing a word gives back, in terms of the state before: a word of a family either takes
effect, and then `performed` is the state it leaves, or it has a refusal, and then nothing has
happened.  The same of a step, for a machine that goes on to a word that is not zero.

## Main definitions

* `Runs` — the word that an operation executes, fetched or not

## Main statements

* `execute_of_accepted`, `execute_of_refused` — a word that is executed without being fetched
* `step_of_accepted`, `step_of_refused`, `step_of_unknown` — the word that a step fetches
* `Runs.apply_of_accepted` — both at once: the program counter is all that differs
-/

namespace Chip8.Machine

variable {m : Machine} {w : Word} {opcode : Opcode} {e : Error}

theorem execute_of_accepted (family : Opcode.decode w = some opcode)
    (accepted : m.refusal opcode w = none) (byte : UInt8) :
    m.execute w byte =
      ⟨.ok (.executed opcode), m.performed opcode w byte, announcement opcode w⟩ :=
  execute_of_ok family (perform_eq_performed accepted byte)

theorem execute_of_refused (family : Opcode.decode w = some opcode)
    (refused : m.refusal opcode w = some e) (byte : UInt8) :
    m.execute w byte = ⟨.error e, m, announcement opcode w⟩ :=
  execute_of_error family (perform_of_refusal refused byte)

theorem step_of_accepted (ready : m.Ready) (fetch : m.nextWord = .ok w) (nonzero : w ≠ 0)
    (family : Opcode.decode w = some opcode) (accepted : m.refusal opcode w = none)
    (byte : UInt8) :
    m.step byte = ⟨.ok (.executed opcode), { m with pc := m.pc + 2 }.performed opcode w byte,
      announcement opcode w⟩ := by
  rw [← refusal_moved m (m.pc + 2)] at accepted
  rw [step_of_nextWord ready.running ready.free fetch nonzero, advance,
    execute_of_accepted family accepted]

/-- A step that is refused does not even move on. -/
theorem step_of_refused (ready : m.Ready) (fetch : m.nextWord = .ok w) (nonzero : w ≠ 0)
    (family : Opcode.decode w = some opcode) (refused : m.refusal opcode w = some e)
    (byte : UInt8) : m.step byte = ⟨.error e, m, announcement opcode w⟩ := by
  rw [← refusal_moved m (m.pc + 2)] at refused
  rw [step_of_nextWord ready.running ready.free fetch nonzero, advance,
    execute_of_refused family refused]

theorem step_of_unknown (ready : m.Ready) (fetch : m.nextWord = .ok w) (nonzero : w ≠ 0)
    (family : Opcode.decode w = none) (byte : UInt8) :
    m.step byte =
      ⟨.ok (.unknownWord w), { m with pc := m.pc + 2 }, [.unknownWord w (m.pc + 2)]⟩ := by
  rw [step_of_nextWord ready.running ready.free fetch nonzero, advance,
    execute_of_unknown family]

/-! ## Operations -/

/-- The operation executes the word `w`. -/
inductive Runs (m : Machine) : Operation → Word → Prop
  /-- A step fetches the word. -/
  | step {w : Word} (ready : m.Ready) (fetch : m.nextWord = .ok w) (byte : UInt8) :
      m.Runs (.step byte) w
  /-- The word is executed without being fetched. -/
  | execute (w : Word) (byte : UInt8) : m.Runs (.execute w byte) w

/-- An instruction that is not refused takes effect, and only the program counter tells whether its
word was fetched. -/
theorem Runs.apply_of_accepted {operation : Operation} (runs : m.Runs operation w)
    (own : opcode ≠ .machineRoutine) (family : Opcode.decode w = some opcode)
    (accepted : m.refusal opcode w = none) :
    ∃ pc byte, m.apply operation = ⟨some (.ok (.executed opcode)),
      { m with pc := pc }.performed opcode w byte, announcement opcode w⟩ := by
  cases runs with
  | step ready fetch byte =>
      have nonzero := Opcode.ne_zero_of_decode own family
      refine ⟨m.pc + 2, byte, ?_⟩
      rw [apply, step_of_accepted ready fetch nonzero family accepted]
  | execute w byte =>
      refine ⟨m.pc, byte, ?_⟩
      rw [apply, execute_of_accepted family accepted]

end Chip8.Machine
