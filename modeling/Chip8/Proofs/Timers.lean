import Chip8.Machine.History
import Chip8.Proofs.Lockstep

/-!
# What the timers change

One family reads a timer: `FX07` puts the delay timer in a register.  No other instruction and no
decision of a step looks at the two, so machines that differ in nothing but the timers go the same
way until `FX07` is executed, and from there on they may part.

## Main definitions

* `Machine.SameButTimers` — two states that agree on everything but the two timers
* `Machine.executed` — the families of the instructions that a list of operations executes

## Main statements

* `performed_withTimers` — the timers have no part in what the other families do
* `SameButTimers.step` — they have none in what the other steps do
-/

namespace Chip8.Machine

variable {m n : Machine} {opcode : Opcode} {byte : UInt8}

/-- The state with the given timers. -/
def withTimers (m : Machine) (delay sound : UInt8) : Machine :=
  { m with delayTimer := delay, soundTimer := sound }

/-- The two states agree on everything but the timers. -/
def SameButTimers (m n : Machine) : Prop :=
  n = m.withTimers n.delayTimer n.soundTimer

theorem sameButTimers_tick (m : Machine) : m.SameButTimers m.tick := rfl

theorem SameButTimers.refl (m : Machine) : m.SameButTimers m := rfl

theorem SameButTimers.symm (same : m.SameButTimers n) : n.SameButTimers m := by
  unfold SameButTimers at same ⊢
  rw [same]
  rfl

theorem SameButTimers.trans {o : Machine} (first : m.SameButTimers n) (second : n.SameButTimers o) :
    m.SameButTimers o := by
  unfold SameButTimers at first second ⊢
  rw [second, first]
  rfl

/-- The timers have no part in how a step goes. -/
theorem SameButTimers.inStep (same : m.SameButTimers n) : m.InStep n := by
  rw [same]
  exact ⟨rfl, rfl, rfl, rfl, rfl, rfl⟩

theorem SameButTimers.status (same : m.SameButTimers n) : n.status = m.status := by
  rw [same]
  rfl

/-! ## Instructions and steps -/

theorem skipWhen_withTimers (m : Machine) (delay sound : UInt8) (condition : Bool) :
    (m.skipWhen condition).SameButTimers ((m.withTimers delay sound).skipWhen condition) := by
  cases condition <;> rfl

/-- An instruction that does not read a timer does the same whatever they are. -/
theorem performed_withTimers (untimed : opcode ≠ .setVxFromTimer) (m : Machine)
    (delay sound : UInt8) (w : Word) (byte : UInt8) :
    (m.performed opcode w byte).SameButTimers
      ((m.withTimers delay sound).performed opcode w byte) := by
  cases opcode with
  | setVxFromTimer => exact absurd rfl untimed
  | skipEqX | skipNeqX | skipXEqY | skipXNeqY | skipIfKeyPressed | skipIfKeyNotPressed =>
      exact skipWhen_withTimers m delay sound _
  | _ => rfl

/-- A step that does not execute `FX07` does the same whatever the timers are. -/
theorem SameButTimers.step (same : m.SameButTimers n)
    (untimed : (m.step byte).result ≠ .ok (.executed .setVxFromTimer)) :
    (m.step byte).state.SameButTimers (n.step byte).state := by
  cases lockstep same.inStep byte with
  | stayed result log left right =>
      rw [left, right]
      exact same
  | ended left right | passed w left right =>
      rw [left, right, same]
      rfl
  | executed w opcode ready fetch family accepted left right =>
      have other : opcode ≠ .setVxFromTimer := by
        rintro rfl
        exact untimed (congrArg Reply.result left)
      rw [left, right, same]
      exact performed_withTimers other { m with pc := m.pc + 2 } _ _ w byte

/-! ## Executed instructions -/

/-- The families of the instructions that a list of operations executes, in order. -/
def executed (m : Machine) (operations : List Operation) : List Opcode :=
  (m.history operations).filterMap Moment.executed

theorem executed_cons (m : Machine) (operation : Operation) (rest : List Operation) :
    m.executed (operation :: rest) =
      (m.moment operation).executed.toList ++ (m.apply operation).state.executed rest := by
  rw [executed, history, List.filterMap_cons]
  cases (m.moment operation).executed <;> rfl

theorem executed_append (m : Machine) (first second : List Operation) :
    m.executed (first ++ second) = m.executed first ++ (m.after first).executed second := by
  rw [executed, history_append, List.filterMap_append]
  rfl

/-- Steps in step with each other execute the same. -/
theorem InStep.executed (inStep : m.InStep n) (byte : UInt8) :
    (n.moment (.step byte)).executed = (m.moment (.step byte)).executed := by
  simp only [moment, apply, Moment.executed, inStep.result]

theorem step_result_of_executed {opcode : Opcode}
    (untimed : (m.moment (.step byte)).executed ≠ some opcode) :
    (m.step byte).result ≠ .ok (.executed opcode) := by
  intro result
  apply untimed
  simp only [moment, apply, Moment.executed, result]

end Chip8.Machine
