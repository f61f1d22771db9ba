import Chip8.Machine.Step

/-!
# The ways a step can go

A step of a machine that has come to its end, or that waits for a key, does nothing.  Every other
step fetches a word.  The fetch may fail; the word may be zero, may belong to no family, or may
belong to one, and then the instruction either takes effect or is refused.

`Cycle` lists these ways, each with everything the step was decided by and all it gave back, so
that a law about steps is proved way by way and never looks into `Machine.step` again.

## Main statements

* `cycle` — every step goes one of these ways
* `step_of_not_ready` — a machine that does not go on absorbs a step
* `nextWord_of_lt`, `nextWord_of_le` — when a word can be fetched
-/

namespace Chip8.Machine

/-- The machine has not come to its end and waits for no key. -/
structure Ready (m : Machine) : Prop where
  running : m.halted = false
  free : m.awaiting = none

theorem not_ready_of_halted {m : Machine} (before : m.halted = true) : ¬ m.Ready := by
  intro ready
  rw [ready.running] at before
  cases before

theorem not_ready_of_awaiting {m : Machine} {target : Register}
    (awaited : m.awaiting = some target) : ¬ m.Ready := by
  intro ready
  rw [ready.free] at awaited
  cases awaited

/-- A step of `m` with the random byte `byte`, by the way it goes. -/
inductive Cycle (m : Machine) (byte : UInt8) : Prop
  /-- The program had come to its end before. -/
  | halted (before : m.halted = true) (reply : m.step byte = ⟨.ok .halted, m, []⟩)
  /-- A register waits for a key. -/
  | waiting (target : Register) (running : m.halted = false) (awaited : m.awaiting = some target)
      (reply : m.step byte = ⟨.ok (.awaitingKey target), m, []⟩)
  /-- There is no word at the program counter. -/
  | unfetched (e : Error) (ready : m.Ready) (fetch : m.nextWord = .error e)
      (reply : m.step byte = ⟨.error e, m, []⟩)
  /-- The word is zero, and so the program comes to its end. -/
  | ended (ready : m.Ready) (fetch : m.nextWord = .ok 0)
      (reply : m.step byte = ⟨.ok .halted, { m with halted := true }, [.zeroWordFetched m.pc]⟩)
  /-- The word belongs to no family and is passed over. -/
  | unknown (w : Word) (ready : m.Ready) (fetch : m.nextWord = .ok w) (nonzero : w ≠ 0)
      (family : Opcode.decode w = none)
      (reply : m.step byte =
        ⟨.ok (.unknownWord w), { m with pc := m.pc + 2 }, [.unknownWord w (m.pc + 2)]⟩)
  /-- The instruction takes effect. -/
  | executed (w : Word) (opcode : Opcode) (next : Machine) (ready : m.Ready)
      (fetch : m.nextWord = .ok w) (nonzero : w ≠ 0) (family : Opcode.decode w = some opcode)
      (effect : { m with pc := m.pc + 2 }.perform opcode w byte = .ok () next)
      (reply : m.step byte = ⟨.ok (.executed opcode), next, announcement opcode w⟩)
  /-- The instruction fails, and the program counter is put back. -/
  | refused (w : Word) (opcode : Opcode) (e : Error) (left : Machine) (ready : m.Ready)
      (fetch : m.nextWord = .ok w) (nonzero : w ≠ 0) (family : Opcode.decode w = some opcode)
      (effect : { m with pc := m.pc + 2 }.perform opcode w byte = .error e left)
      (reply : m.step byte = ⟨.error e, { left with pc := m.pc }, announcement opcode w⟩)

theorem execute_of_unknown {m : Machine} {w : Word} (family : Opcode.decode w = none)
    (byte : UInt8) : m.execute w byte = ⟨.ok (.unknownWord w), m, [.unknownWord w m.pc]⟩ := by
  simp only [execute, family]

theorem execute_of_ok {m next : Machine} {w : Word} {opcode : Opcode} {byte : UInt8}
    (family : Opcode.decode w = some opcode) (effect : m.perform opcode w byte = .ok () next) :
    m.execute w byte = ⟨.ok (.executed opcode), next, announcement opcode w⟩ := by
  simp only [execute, family, effect]

theorem execute_of_error {m left : Machine} {w : Word} {opcode : Opcode} {byte : UInt8} {e : Error}
    (family : Opcode.decode w = some opcode) (effect : m.perform opcode w byte = .error e left) :
    m.execute w byte = ⟨.error e, left, announcement opcode w⟩ := by
  simp only [execute, family, effect]

/-- Every step goes one of the ways of `Cycle`. -/
theorem cycle (m : Machine) (byte : UInt8) : Cycle m byte := by
  cases before : m.halted with
  | true => exact .halted before (step_of_halted before byte)
  | false =>
      cases awaited : m.awaiting with
      | some target => exact .waiting target before awaited (step_of_awaiting before awaited byte)
      | none =>
          have ready : m.Ready := ⟨before, awaited⟩
          cases fetch : m.nextWord with
          | error e =>
              exact .unfetched e ready fetch (step_of_nextWord_error before awaited fetch byte)
          | ok w =>
              by_cases nonzero : w = 0
              · subst nonzero
                exact .ended ready fetch (step_of_nextWord_zero before awaited fetch byte)
              · have step := step_of_nextWord before awaited fetch nonzero byte
                cases family : Opcode.decode w with
                | none =>
                    refine .unknown w ready fetch nonzero family ?_
                    rw [step, advance, execute_of_unknown family]
                | some opcode =>
                    cases effect : { m with pc := m.pc + 2 }.perform opcode w byte with
                    | ok done next =>
                        refine .executed w opcode next ready fetch nonzero family effect ?_
                        rw [step, advance, execute_of_ok family effect]
                    | error e left =>
                        refine .refused w opcode e left ready fetch nonzero family effect ?_
                        rw [step, advance, execute_of_error family effect]

/-- A machine that does not go on absorbs a step. -/
theorem step_of_not_ready {m : Machine} (idle : ¬ m.Ready) (byte : UInt8) :
    ∃ outcome : Outcome, m.step byte = ⟨.ok outcome, m, []⟩ ∧ outcome.proceeds = false := by
  cases m.cycle byte with
  | halted before reply => exact ⟨_, reply, rfl⟩
  | waiting target running awaited reply => exact ⟨_, reply, rfl⟩
  | unfetched e ready fetch reply => exact absurd ready idle
  | ended ready fetch reply => exact absurd ready idle
  | unknown w ready fetch nonzero family reply => exact absurd ready idle
  | executed w opcode next ready fetch nonzero family effect reply => exact absurd ready idle
  | refused w opcode e left ready fetch nonzero family effect reply => exact absurd ready idle

/-! ## Fetching -/

/-- The word at the program counter, as far as there is one. -/
def wordAhead (m : Machine) : Word :=
  .ofBytes (m.memory.byte m.pc.toNat) (m.memory.byte (m.pc.toNat + 1))

theorem nextWord_of_lt {m : Machine} (h : m.pc.toNat < 4095) : m.nextWord = .ok m.wordAhead := by
  have upper : m.pc.toNat < 4096 := by omega
  have lower : m.pc.toNat + 1 < 4096 := by omega
  simp [nextWord, Memory.wordAt, Memory.read, upper, lower, wordAhead]

/-- The fault of a fetch is at the first of the two addresses that does not exist. -/
theorem nextWord_of_le {m : Machine} (h : 4095 ≤ m.pc.toNat) :
    m.nextWord = .error (.memoryFault (max m.pc.toNat 4096)) := by
  by_cases upper : m.pc.toNat < 4096
  · -- only the upper byte of the word exists
    have last : m.pc.toNat = 4095 := by omega
    simp [nextWord, Memory.wordAt, Memory.read, last]
  · have outside : max m.pc.toNat 4096 = m.pc.toNat := by omega
    simp [nextWord, Memory.wordAt, Memory.read, upper, outside]

/-- A word that was fetched is the one at the program counter, and lies inside the memory. -/
theorem nextWord_eq_ok_iff {m : Machine} {w : Word} :
    m.nextWord = .ok w ↔ m.pc.toNat < 4095 ∧ m.wordAhead = w := by
  by_cases h : m.pc.toNat < 4095
  · simp [nextWord_of_lt h, h]
  · simp [nextWord_of_le (Nat.le_of_not_lt h), h]

/-- Moving on by one word wraps only near the end of the 16-bit range, far behind the memory. -/
theorem toNat_add_two {pc : UInt16} (h : pc.toNat ≤ 0x1100) : (pc + 2).toNat = pc.toNat + 2 := by
  simp only [UInt16.toNat_add, UInt16.reduceToNat]
  omega

end Chip8.Machine
