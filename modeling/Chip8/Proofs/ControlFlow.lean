import Chip8.Machine.History
import Chip8.Proofs.Cycle
import Chip8.Proofs.Effects

/-!
# Control flow

The program counter and the call stack are moved by four families only, and by the skips.  `Flow`
says how, family by family; `Course` says the same of a step, which moves past its word before the
instruction takes effect.  All other operations leave the two as they are, unless they start the
machine over or execute a word of their own.

## Main definitions

* `Machine.Flow` — how an instruction moves the program counter and the call stack
* `Machine.Course` — how an operation that is neither a restart nor direct moves them

## Main statements

* `perform_flow`, `apply_course` — every instruction and every such operation does as said
* `executed_step_iff` — which steps execute an instruction of a family
-/

namespace Chip8.Machine

/-! ## Instructions -/

/-- How the instruction `w` of a family takes the program counter and the call stack of `m` to
those of `next`. -/
inductive Flow (m : Machine) (w : Word) (next : Machine) : Opcode → Prop
  | call (pc : next.pc = w.nnn) (stack : next.stack = m.pc :: m.stack) :
      Flow m w next .subroutineCall
  | back (stack : m.stack = next.pc :: next.stack) : Flow m w next .subroutineReturn
  | jump (pc : next.pc = w.nnn) (stack : next.stack = m.stack) : Flow m w next .jump
  | offset (pc : next.pc = w.nnn + (m.registers.read 0).toUInt16) (stack : next.stack = m.stack) :
      Flow m w next .jumpWithOffset
  /-- All other families go on, or pass over one word. -/
  | onward {opcode : Opcode} (call : opcode ≠ .subroutineCall) (back : opcode ≠ .subroutineReturn)
      (pc : next.pc = m.pc ∨ next.pc = m.pc + 2) (stack : next.stack = m.stack) :
      Flow m w next opcode

theorem skipWhen_pc (m : Machine) (condition : Bool) :
    (m.skipWhen condition).pc = m.pc ∨ (m.skipWhen condition).pc = m.pc + 2 := by
  cases condition with
  | true => exact .inr rfl
  | false => exact .inl rfl

@[simp] theorem skipWhen_stack (m : Machine) (condition : Bool) :
    (m.skipWhen condition).stack = m.stack := by
  cases condition <;> rfl

theorem perform_flow {m next : Machine} {opcode : Opcode} {w : Word} {byte : UInt8}
    (effect : m.perform opcode w byte = .ok () next) : Flow m w next opcode := by
  have accepted := refusal_eq_none_of_ok effect
  cases opcode with
  | subroutineCall =>
      cases effect
      exact .call rfl rfl
  | subroutineReturn =>
      cases stack : m.stack with
      | nil => simp [refusal, stack] at accepted
      | cons address rest =>
          rw [perform, returnFromCall_cons stack] at effect
          cases effect
          exact .back stack
  | jump =>
      cases effect
      exact .jump rfl rfl
  | jumpWithOffset =>
      cases effect
      exact .offset rfl rfl
  | skipEqX | skipNeqX | skipXEqY | skipXNeqY | skipIfKeyPressed | skipIfKeyNotPressed =>
      cases effect
      exact .onward (by decide) (by decide) (skipWhen_pc m _) (skipWhen_stack m _)
  | draw =>
      rw [perform, drawAtIndex_of_accepted accepted] at effect
      cases effect
      exact .onward (by decide) (by decide) (.inl rfl) rfl
  | binaryCodedDecimal =>
      rw [perform, storeDigits_of_accepted accepted] at effect
      cases effect
      exact .onward (by decide) (by decide) (.inl rfl) rfl
  | store =>
      rw [perform, storeBlock_of_accepted accepted] at effect
      cases effect
      exact .onward (by decide) (by decide) (.inl rfl) rfl
  | load =>
      rw [perform, loadBlock_of_accepted accepted] at effect
      cases effect
      exact .onward (by decide) (by decide) (.inl rfl) rfl
  | _ =>
      cases effect
      exact .onward (by decide) (by decide) (.inl rfl) rfl

/-! ## Operations -/

/-- A step executes an instruction exactly if it goes on to a word of the family that is not zero
and is not refused. -/
theorem executed_step_iff {m : Machine} {byte : UInt8} {opcode : Opcode} :
    (m.moment (.step byte)).executed = some opcode ↔
      m.Ready ∧ ∃ w, m.nextWord = .ok w ∧ w ≠ 0 ∧ Opcode.decode w = some opcode ∧
        m.refusal opcode w = none := by
  simp only [moment, apply]
  cases m.cycle byte with
  | halted before reply => simp [reply, Moment.executed, not_ready_of_halted before]
  | waiting target running awaited reply =>
      simp [reply, Moment.executed, not_ready_of_awaiting awaited]
  | unfetched cause ready fetch reply => simp [reply, Moment.executed, fetch]
  | ended ready fetch reply => simp [reply, Moment.executed, fetch]
  | unknown w ready fetch nonzero family reply => simp [reply, Moment.executed, fetch, family]
  | executed w found next ready fetch nonzero family effect reply =>
      have accepted := refusal_eq_none_of_ok effect
      rw [refusal_moved] at accepted
      simp only [reply, Moment.executed, fetch, Option.some.injEq, Except.ok.injEq]
      constructor
      · rintro rfl
        exact ⟨ready, w, rfl, nonzero, family, accepted⟩
      · rintro ⟨-, _, rfl, -, same, -⟩
        exact Option.some.inj (family.symm.trans same)
  | refused w found cause left ready fetch nonzero family effect reply =>
      obtain ⟨refusal, -⟩ := perform_eq_error_iff.mp effect
      rw [refusal_moved] at refusal
      simp only [reply, Moment.executed, fetch, Except.ok.injEq, reduceCtorEq, false_iff]
      rintro ⟨-, _, rfl, -, same, accepted⟩
      cases Option.some.inj (family.symm.trans same)
      rw [refusal] at accepted
      cases accepted

/-- How an operation, which executed an instruction of a family or none at all, takes the program
counter and the call stack of `m` to those of `next`. -/
inductive Course (m next : Machine) : Option Opcode → Prop
  /-- A step executed the word at the program counter, after it had moved past it. -/
  | executed {opcode : Opcode} (inside : m.pc.toNat < 4095)
      (family : Opcode.decode m.wordAhead = some opcode)
      (flow : Flow { m with pc := m.pc + 2 } m.wordAhead next opcode) :
      Course m next (some opcode)
  /-- A step moved past a word of no family. -/
  | passed (inside : m.pc.toNat < 4095) (pc : next.pc = m.pc + 2) (stack : next.stack = m.stack) :
      Course m next none
  | stayed (pc : next.pc = m.pc) (stack : next.stack = m.stack) : Course m next none

theorem step_course (m : Machine) (byte : UInt8) :
    Course m (m.step byte).state (m.moment (.step byte)).executed := by
  cases m.cycle byte with
  | halted before reply =>
      simp only [moment, apply, Moment.executed, reply]
      exact .stayed rfl rfl
  | waiting target running awaited reply =>
      simp only [moment, apply, Moment.executed, reply]
      exact .stayed rfl rfl
  | unfetched e ready fetch reply =>
      simp only [moment, apply, Moment.executed, reply]
      exact .stayed rfl rfl
  | ended ready fetch reply =>
      simp only [moment, apply, Moment.executed, reply]
      exact .stayed rfl rfl
  | unknown w ready fetch nonzero family reply =>
      simp only [moment, apply, Moment.executed, reply]
      exact .passed (nextWord_eq_ok_iff.mp fetch).1 rfl rfl
  | executed w opcode next ready fetch nonzero family effect reply =>
      obtain ⟨inside, rfl⟩ := nextWord_eq_ok_iff.mp fetch
      simp only [moment, apply, Moment.executed, reply]
      exact .executed inside family (perform_flow effect)
  | refused w opcode e left ready fetch nonzero family effect reply =>
      obtain ⟨-, rfl⟩ := perform_eq_error_iff.mp effect
      simp only [moment, apply, Moment.executed, reply]
      exact .stayed rfl rfl

/-- Every operation that is neither direct nor a restart takes its course. -/
theorem apply_course (m : Machine) {operation : Operation} (fetched : operation.isDirect = false)
    (goesOn : operation.isRestart = false) :
    Course m (m.apply operation).state (m.moment operation).executed := by
  cases operation with
  | step byte => exact step_course m byte
  | execute w byte => cases fetched
  | reset clearMemory => cases goesOn
  | load image => cases goesOn
  | keyDown k =>
      refine .stayed ?_ ?_
      · rw [apply, keyDown_state]
      · rw [apply, keyDown_state]
  | clock | keyUp k | setRegister r value | setMode mode | poke a bytes => exact .stayed rfl rfl

end Chip8.Machine
