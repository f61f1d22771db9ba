import Chip8.Proofs.ControlFlow

/-!
# Bounds on the program counter and the call stack

Nothing checks the program counter, and `BNNN` takes it out of the memory.  Still it is bounded: a
word can only be fetched from inside the memory, so moving past it ends at most right behind the
memory, and a skip two bytes further; jumps reach `0xFFF`, and with `V0` added `0x10FE`.  What is
kept on the call stack is a program counter right after a fetch, and a return only goes back to
what was kept.  So both bounds are inductive, but only together.

## Main definitions

* `Machine.ControlInRange` — the two bounds

## Main statements

* `Course.controlInRange` — an operation keeps the bounds
* `control_stays_in_range` — they hold after every list of operations from power-on
-/

namespace Chip8.Machine

/-- The program counter is at most `0x10FE`, and return addresses lie between 2 and 4096. -/
structure ControlInRange (m : Machine) : Prop where
  pc : m.pc.toNat ≤ 0x10FE
  stack : ∀ address ∈ m.stack, 2 ≤ address.toNat ∧ address.toNat ≤ 4096

theorem controlInRange_powerOn : powerOn.ControlInRange := by
  refine ⟨by decide, ?_⟩
  intro address mem
  cases mem

variable {m next : Machine}

/-- The bounds of the state that an instruction leaves, which found the program counter right
after a fetch. -/
theorem Flow.controlInRange {w : Word} {opcode : Opcode} (flow : Flow m w next opcode)
    (low : 2 ≤ m.pc.toNat) (high : m.pc.toNat ≤ 4096)
    (stack : ∀ address ∈ m.stack, 2 ≤ address.toNat ∧ address.toNat ≤ 4096) :
    next.ControlInRange := by
  have operand : w.nnn.toNat < 4096 := by
    rw [Word.toNat_nnn]
    exact Nat.mod_lt _ (by decide)
  cases flow with
  | call pc pushed =>
      -- the address that is kept is the program counter right after the fetch
      refine ⟨by rw [pc]; omega, ?_⟩
      intro address mem
      rw [pushed, List.mem_cons] at mem
      rcases mem with rfl | older
      · exact ⟨low, high⟩
      · exact stack address older
  | back popped =>
      rw [popped] at stack
      have top := stack next.pc List.mem_cons_self
      exact ⟨by omega, fun address mem => stack address (List.mem_cons_of_mem _ mem)⟩
  | jump pc same =>
      refine ⟨by rw [pc]; omega, ?_⟩
      rwa [same]
  | offset pc same =>
      -- `V0` adds at most 255, and wrapping could only make the sum smaller
      have small := (m.registers.read 0).toNat_lt
      have sum : next.pc.toNat ≤ w.nnn.toNat + (m.registers.read 0).toNat := by
        rw [pc, UInt16.toNat_add, UInt8.toNat_toUInt16]
        exact Nat.mod_le _ _
      refine ⟨by omega, ?_⟩
      rwa [same]
  | onward _ _ pc same =>
      refine ⟨?_, by rwa [same]⟩
      rcases pc with pc | pc
      · rw [pc]
        omega
      · rw [pc, toNat_add_two (by omega)]
        omega

/-- An operation that is neither direct nor a restart keeps the bounds. -/
theorem Course.controlInRange {executed : Option Opcode} (course : Course m next executed)
    (h : m.ControlInRange) : next.ControlInRange := by
  have past := toNat_add_two (show m.pc.toNat ≤ 0x1100 by have := h.pc; omega)
  cases course with
  | executed inside family flow =>
      have low : 2 ≤ (m.pc + 2).toNat := by omega
      have high : (m.pc + 2).toNat ≤ 4096 := by omega
      exact flow.controlInRange low high h.stack
  | passed inside pc same =>
      refine ⟨?_, by rw [same]; exact h.stack⟩
      rw [pc, past]
      omega
  | stayed pc same => exact ⟨by rw [pc]; exact h.pc, by rw [same]; exact h.stack⟩

/-- A restart goes back to the program counter and the call stack of power-on. -/
theorem controlInRange_of_restart (m : Machine) {operation : Operation}
    (restart : operation.isRestart = true) : (m.apply operation).state.ControlInRange := by
  cases operation with
  | reset clearMemory => exact ⟨controlInRange_powerOn.pc, controlInRange_powerOn.stack⟩
  | load image => exact ⟨controlInRange_powerOn.pc, controlInRange_powerOn.stack⟩
  | _ => cases restart

theorem controlInRange_apply {operation : Operation} (fetched : operation.isDirect = false)
    (h : m.ControlInRange) : (m.apply operation).state.ControlInRange := by
  cases restart : operation.isRestart with
  | true => exact controlInRange_of_restart m restart
  | false => exact (apply_course m fetched restart).controlInRange h

/-- **The program counter and the call stack stay in range.**  After any operations from power-on,
among them no word that was not fetched, the program counter is at most `0x10FE` and every return
address lies between 2 and 4096.  So moving past a word does not wrap, nor does skipping the next
one, and a fetch fails at an address between `0x1000` and `0x10FE`. -/
theorem control_stays_in_range (operations : List Operation)
    (fetched : ∀ operation ∈ operations, operation.isDirect = false) :
    let m := powerOn.after operations
    m.pc.toNat ≤ 0x10FE ∧
    (∀ address ∈ m.stack, 2 ≤ address.toNat ∧ address.toNat ≤ 4096) ∧
    (m.pc + 2).toNat = m.pc.toNat + 2 ∧
    (m.pc + 2 + 2).toNat = m.pc.toNat + 2 + 2 ∧
    ∀ e, m.nextWord = .error e → ∃ a, e = .memoryFault a ∧ 4096 ≤ a ∧ a ≤ 0x10FE := by
  intro m
  have range : m.ControlInRange :=
    after_invariant controlInRange_powerOn fun operation mem state =>
      controlInRange_apply (fetched operation mem)
  have bound := range.pc
  have past := toNat_add_two (show m.pc.toNat ≤ 0x1100 by omega)
  have skipped := toNat_add_two (show (m.pc + 2).toNat ≤ 0x1100 by omega)
  refine ⟨range.pc, range.stack, past, by rw [skipped, past], ?_⟩
  intro e fault
  by_cases inside : m.pc.toNat < 4095
  · rw [nextWord_of_lt inside] at fault
    cases fault
  · rw [nextWord_of_le (by omega), Except.error.injEq] at fault
    exact ⟨max m.pc.toNat 4096, fault.symm, by omega, by omega⟩

/-- The bound of the program counter is reached: `60FF` and `BFFF` lead to `0x10FE`, where moving
on does not wrap and the fetch fails. -/
theorem furthest_jump_stays_in_range :
    let m := powerOn.after [.load [0x60, 0xFF, 0xBF, 0xFF], .step 0, .step 0]
    m.pc = 0x10FE ∧ m.pc.toNat ≤ 0x10FE ∧ (m.pc + 2).toNat = m.pc.toNat + 2 ∧
      ∃ a, m.nextWord = .error (.memoryFault a) ∧ 4096 ≤ a ∧ a ≤ 0x10FE := by
  intro m
  have reached : m.pc = 0x10FE := by decide +kernel
  obtain ⟨bound, -, past, -, faults⟩ := control_stays_in_range
    [.load [0x60, 0xFF, 0xBF, 0xFF], .step 0, .step 0] (by decide)
  have fault := nextWord_of_le (m := m) (by rw [reached]; decide)
  obtain ⟨a, same, low, high⟩ := faults _ fault
  exact ⟨reached, bound, past, a, fault.trans (congrArg _ same), low, high⟩

end Chip8.Machine
