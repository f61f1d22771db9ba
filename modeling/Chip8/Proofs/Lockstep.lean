import Chip8.Proofs.Outcomes

/-!
# Two machines in step

What a step does is decided by the memory, the program counter, the index, the call stack, the latch
and whether the program has come to its end.  Registers, timers, screen, held keys and mode have no
part in it: they decide what an instruction writes and where the program goes on, but not which one
is executed, nor whether it fails.  So the steps of two machines that agree on the deciding parts go
the same way.

`Lockstep` lists these ways for both machines at once, so that a law about two runs is proved way by
way, as `Cycle` does it for one.

## Main definitions

* `Machine.InStep` — two states that agree on the deciding parts
* `Machine.Lockstep` — the ways in which both can take a step

## Main statements

* `lockstep` — two machines in step go the same way
* `InStep.result`, `InStep.execute_result` — so their steps have the same outcome or the same error,
  and so has a word that both execute
-/

namespace Chip8.Machine

/-- The two states agree on everything that decides what a step does. -/
structure InStep (m n : Machine) : Prop where
  memory : n.memory = m.memory
  pc : n.pc = m.pc
  index : n.index = m.index
  stack : n.stack = m.stack
  awaiting : n.awaiting = m.awaiting
  halted : n.halted = m.halted

variable {m n : Machine} {byte : UInt8}

theorem InStep.nextWord (inStep : m.InStep n) : n.nextWord = m.nextWord := by
  rw [Machine.nextWord, Machine.nextWord, inStep.memory, inStep.pc]

theorem InStep.ready (inStep : m.InStep n) (ready : m.Ready) : n.Ready :=
  ⟨inStep.halted.trans ready.running, inStep.awaiting.trans ready.free⟩

theorem InStep.rangeRefusal (inStep : m.InStep n) (count : Nat) :
    n.rangeRefusal count = m.rangeRefusal count := by
  rw [Machine.rangeRefusal, Machine.rangeRefusal, inStep.index]

/-- The same instructions fail in both, with the same errors. -/
theorem InStep.refusal (inStep : m.InStep n) (opcode : Opcode) (w : Word) :
    n.refusal opcode w = m.refusal opcode w := by
  cases opcode with
  | subroutineReturn => rw [Machine.refusal, Machine.refusal, inStep.stack]
  | draw => exact inStep.rangeRefusal w.n
  | binaryCodedDecimal => exact inStep.rangeRefusal 3
  | store => exact inStep.rangeRefusal (transferCount w)
  | load => exact inStep.rangeRefusal (transferCount w)
  | _ => rfl

/-- A step of `m` and one of `n`, both with the random byte `byte`, by the way they go. -/
inductive Lockstep (m n : Machine) (byte : UInt8) : Prop
  /-- Both stay as they are: the program has come to its end or waits for a key, or the step
  fails. -/
  | stayed (result : Except Error Outcome) (log : List Event)
      (left : m.step byte = ⟨result, m, log⟩) (right : n.step byte = ⟨result, n, log⟩)
  /-- The word is zero, and so both come to their end. -/
  | ended (left : m.step byte = ⟨.ok .halted, { m with halted := true }, [.zeroWordFetched m.pc]⟩)
      (right : n.step byte = ⟨.ok .halted, { n with halted := true }, [.zeroWordFetched n.pc]⟩)
  /-- Both pass over a word of no family. -/
  | passed (w : Word)
      (left : m.step byte =
        ⟨.ok (.unknownWord w), { m with pc := m.pc + 2 }, [.unknownWord w (m.pc + 2)]⟩)
      (right : n.step byte =
        ⟨.ok (.unknownWord w), { n with pc := n.pc + 2 }, [.unknownWord w (n.pc + 2)]⟩)
  /-- Both execute the same instruction. -/
  | executed (w : Word) (opcode : Opcode) (ready : m.Ready) (fetch : m.nextWord = .ok w)
      (family : Opcode.decode w = some opcode) (accepted : m.refusal opcode w = none)
      (left : m.step byte = ⟨.ok (.executed opcode),
        { m with pc := m.pc + 2 }.performed opcode w byte, announcement opcode w⟩)
      (right : n.step byte = ⟨.ok (.executed opcode),
        { n with pc := n.pc + 2 }.performed opcode w byte, announcement opcode w⟩)

/-- Two machines in step go the same way. -/
theorem lockstep (inStep : m.InStep n) (byte : UInt8) : Lockstep m n byte := by
  have fetched : n.nextWord = m.nextWord := inStep.nextWord
  cases m.cycle byte with
  | halted before reply =>
      exact .stayed _ _ reply (step_of_halted (inStep.halted.trans before) byte)
  | waiting target running awaited reply =>
      have other := step_of_awaiting (inStep.halted.trans running)
        (inStep.awaiting.trans awaited) byte
      exact .stayed _ _ reply other
  | unfetched e ready fetch reply =>
      have also := inStep.ready ready
      have other := step_of_nextWord_error also.running also.free (fetched.trans fetch) byte
      exact .stayed _ _ reply other
  | ended ready fetch reply =>
      have also := inStep.ready ready
      have other := step_of_nextWord_zero also.running also.free (fetched.trans fetch) byte
      exact .ended reply other
  | unknown w ready fetch nonzero family reply =>
      have other := step_of_unknown (inStep.ready ready) (fetched.trans fetch) nonzero family byte
      exact .passed w reply other
  | executed w opcode next ready fetch nonzero family effect reply =>
      have accepted := refusal_eq_none_of_ok effect
      rw [refusal_moved] at accepted
      have one := step_of_accepted ready fetch nonzero family accepted byte
      have other := step_of_accepted (inStep.ready ready) (fetched.trans fetch) nonzero family
        ((inStep.refusal opcode w).trans accepted) byte
      exact .executed w opcode ready fetch family accepted one other
  | refused w opcode e left ready fetch nonzero family effect reply =>
      obtain ⟨refused, -⟩ := perform_eq_error_iff.mp effect
      rw [refusal_moved] at refused
      have one := step_of_refused ready fetch nonzero family refused byte
      have other := step_of_refused (inStep.ready ready) (fetched.trans fetch) nonzero family
        ((inStep.refusal opcode w).trans refused) byte
      exact .stayed _ _ one other

/-- Two machines in step give the same outcome or the same error. -/
theorem InStep.result (inStep : m.InStep n) (byte : UInt8) :
    (n.step byte).result = (m.step byte).result := by
  cases lockstep inStep byte with
  | stayed result log left right => rw [left, right]
  | ended left right => rw [left, right]
  | passed w left right => rw [left, right]
  | executed w opcode ready fetch family accepted left right => rw [left, right]

/-- The same of a word that is executed without being fetched. -/
theorem InStep.execute_result (inStep : m.InStep n) (w : Word) (byte : UInt8) :
    (n.execute w byte).result = (m.execute w byte).result := by
  cases family : Opcode.decode w with
  | none => rw [execute_of_unknown family, execute_of_unknown family]
  | some opcode =>
      have also := inStep.refusal opcode w
      cases refused : m.refusal opcode w with
      | some e =>
          rw [execute_of_refused family refused, execute_of_refused family (also.trans refused)]
      | none =>
          rw [execute_of_accepted family refused, execute_of_accepted family (also.trans refused)]

end Chip8.Machine
