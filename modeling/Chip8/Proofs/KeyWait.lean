import Chip8.Proofs.Keys
import Mathlib.Data.List.Nodup

/-!
# Waiting for a key

While a register waits for a key, steps fetch nothing: only the timers run on and keys go up.  The
next key to go down is written to the register and ends the wait, whatever happened in between.
After that the latch is open until `FX0A` is executed again, and a key that goes down then is held
and nothing more.

## Main definitions

* `Operation.keepsWait` — what can happen without ending a wait
* `Machine.Waited` — the state after a time of waiting

## Main statements

* `waited_after` — what any number of such operations does
* `history_of_waiting` — no step gets past the wait
* `key_wait_is_satisfied_once` — the key that ends the wait, and no other key until the next wait
-/

namespace Chip8

/-- A cycle, a tick of the timers, or a key that goes up: a wait for a key goes on. -/
def Operation.keepsWait : Operation → Bool
  | .step _ | .clock | .keyUp _ => true
  | _ => false

namespace Machine

/-- The state `n` is `m` after a time of waiting: the timers have run down by the ticks among the
operations, the keys that were released are up, and all else is as it was, the wait included. -/
structure Waited (m : Machine) (operations : List Operation) (n : Machine) : Prop where
  others : n = { m with
    delayTimer := n.delayTimer
    soundTimer := n.soundTimer
    keypad := n.keypad }
  delayTimer : n.delayTimer.toNat = m.delayTimer.toNat - operations.count .clock
  soundTimer : n.soundTimer.toNat = m.soundTimer.toNat - operations.count .clock
  held : ∀ k, n.keypad.isHeld k = true ↔ m.keypad.isHeld k = true ∧ .keyUp k ∉ operations
  awaiting : n.awaiting = m.awaiting

variable {m n : Machine} {target : Register} {operations : List Operation}

theorem waited_nil (m : Machine) : m.Waited [] m where
  others := rfl
  delayTimer := rfl
  soundTimer := rfl
  held k := by simp
  awaiting := rfl

/-! ## One operation more -/

/-- A step in a wait leaves the state as it is, so it makes no difference. -/
theorem Waited.step (waited : m.Waited operations n) (byte : UInt8) :
    m.Waited (.step byte :: operations) n where
  others := waited.others
  delayTimer := waited.delayTimer
  soundTimer := waited.soundTimer
  held k := by rw [waited.held k, List.mem_cons, or_iff_right nofun]
  awaiting := waited.awaiting

/-- A tick takes one more from both timers. -/
theorem Waited.clock (waited : m.tick.Waited operations n) :
    m.Waited (.clock :: operations) n where
  others := waited.others
  delayTimer := by
    rw [waited.delayTimer, List.count_cons_self, tick, toNat_countDown]
    omega
  soundTimer := by
    rw [waited.soundTimer, List.count_cons_self, tick, toNat_countDown]
    omega
  held k := by
    rw [waited.held k, List.mem_cons, or_iff_right nofun]
    rfl
  awaiting := waited.awaiting

theorem Waited.keyUp {k : Key} (waited : (m.keyUp k).Waited operations n) :
    m.Waited (.keyUp k :: operations) n where
  others := waited.others
  delayTimer := waited.delayTimer
  soundTimer := waited.soundTimer
  held l := by
    rw [waited.held l, Machine.keyUp, Keypad.isHeld_release, List.mem_cons, Operation.keyUp.injEq]
    simp only [Bool.and_eq_true, Bool.not_eq_true', decide_eq_false_iff_not, not_or]
    rw [and_comm (a := ¬ l = k), and_assoc]
  awaiting := waited.awaiting

/-! ## A time of waiting -/

/-- A machine that waits for a key goes on waiting, and only the timers run and keys go up. -/
theorem waited_after (running : m.halted = false) (awaited : m.awaiting = some target)
    (waiting : ∀ operation ∈ operations, operation.keepsWait = true) :
    m.Waited operations (m.after operations) := by
  induction operations generalizing m with
  | nil => exact waited_nil m
  | cons operation rest ih =>
      have later : ∀ operation ∈ rest, operation.keepsWait = true :=
        fun operation mem => waiting operation (List.mem_cons_of_mem _ mem)
      rw [after_cons]
      cases operation with
      | step byte =>
          rw [apply, step_of_awaiting running awaited]
          exact (ih running awaited later).step byte
      | clock => exact (ih (m := m.tick) running awaited later).clock
      | keyUp k => exact (ih (m := m.keyUp k) running awaited later).keyUp
      | _ => exact absurd (waiting _ List.mem_cons_self) nofun

/-- No step gets past the wait. -/
theorem history_of_waiting (running : m.halted = false) (awaited : m.awaiting = some target)
    (waiting : ∀ operation ∈ operations, operation.keepsWait = true) :
    ∀ moment ∈ m.history operations, ∀ byte, moment.operation = .step byte →
      moment.result = some (.ok (.awaitingKey target)) := by
  induction operations generalizing m with
  | nil => exact fun moment mem => absurd mem List.not_mem_nil
  | cons operation rest ih =>
      -- one operation leads to a state that waits for the same register
      have first : m.Waited [operation] (m.apply operation).state :=
        waited_after running awaited fun other mem => by
          rw [List.mem_singleton.mp mem]
          exact waiting operation List.mem_cons_self
      have running' : (m.apply operation).state.halted = false := by
        rw [first.others]
        exact running
      intro moment mem byte stepped
      rcases List.mem_cons.mp mem with rfl | later
      · cases stepped
        simp only [moment, apply, step_of_awaiting running awaited]
      · exact ih running' (first.awaiting.trans awaited)
          (fun other mem => waiting other (List.mem_cons_of_mem _ mem)) moment later byte stepped

/-! ## After the wait -/

/-- While `FX0A` is not executed, nothing begins to wait. -/
theorem after_awaiting_eq_none (free : m.awaiting = none)
    (other : ∀ moment ∈ m.history operations,
      moment.result ≠ some (.ok (.executed .getKey))) :
    (m.after operations).awaiting = none := by
  induction operations generalizing m with
  | nil => exact free
  | cons operation rest ih =>
      have first := apply_awaiting_eq_none free (other (m.moment operation) List.mem_cons_self)
      exact ih first fun moment mem => other moment (List.mem_cons_of_mem _ mem)

/-- **A wait for a key is satisfied once.**  Let the register `target` wait in a machine that has
not come to its end, let any steps, ticks and releases of keys follow, and then let a key go down.
Every step finds the machine waiting.  In the end both timers have run down by the number of ticks,
the keys that were released are up and the new one is held, the register reads its number, the wait
is over, and nothing else has changed, no other register either.  From then on no key that goes down
writes a register, until `FX0A` has been executed again. -/
theorem key_wait_is_satisfied_once (m : Machine) (target : Register) (operations : List Operation)
    (k : Key) (running : m.halted = false) (awaited : m.awaiting = some target)
    (waiting : ∀ operation ∈ operations, operation.keepsWait = true) :
    (∀ moment ∈ m.history operations, ∀ byte, moment.operation = .step byte →
      moment.result = some (.ok (.awaitingKey target))) ∧
    let satisfied := m.after (operations ++ [.keyDown k])
    satisfied = { m with
      delayTimer := satisfied.delayTimer
      soundTimer := satisfied.soundTimer
      keypad := satisfied.keypad
      registers := satisfied.registers } ∧
    (satisfied.registers.read target).toNat = k.val ∧
    (∀ r, r ≠ target → satisfied.registers.read r = m.registers.read r) ∧
    satisfied.delayTimer.toNat = m.delayTimer.toNat - operations.count .clock ∧
    satisfied.soundTimer.toNat = m.soundTimer.toNat - operations.count .clock ∧
    (∀ l, satisfied.keypad.isHeld l = true ↔
      l = k ∨ m.keypad.isHeld l = true ∧ .keyUp l ∉ operations) ∧
    satisfied.awaiting = none ∧
    ∀ (rest : List Operation) (l : Key),
      (∀ moment ∈ satisfied.history rest, moment.result ≠ some (.ok (.executed .getKey))) →
      ((satisfied.after rest).keyDown l).state.registers = (satisfied.after rest).registers := by
  have waited := waited_after running awaited waiting
  refine ⟨history_of_waiting running awaited waiting, ?_⟩
  intro satisfied
  have pressed : satisfied = { m.after operations with
      keypad := ((m.after operations).keypad.press k).2
      registers := (m.after operations).registers.write target (Key.index k) } :=
    (after_concat m operations (.keyDown k)).trans
      (keyDown_of_awaiting (waited.awaiting.trans awaited) k)
  have ended : satisfied.awaiting = none := by rw [pressed]; rfl
  have registers : satisfied.registers = m.registers.write target (Key.index k) := by
    rw [pressed, waited.others]
  obtain ⟨number, kept⟩ := read_write_index m.registers target k
  rw [← registers] at number kept
  refine ⟨?_, number, kept, ?_, ?_, ?_, ended, ?_⟩
  · rw [pressed, waited.others]
  · rw [pressed]
    exact waited.delayTimer
  · rw [pressed]
    exact waited.soundTimer
  · intro l
    rw [pressed, Keypad.isHeld_press, Bool.or_eq_true, decide_eq_true_eq, waited.held]
  · intro rest l other
    rw [keyDown_of_awaiting_eq_none (after_awaiting_eq_none ended other)]

/-- While `V3` waits, a step, three ticks and the release of key 5 go by before key `B` goes down,
whose number 11 is written to `V3`.  The program goes on with `6001`, and key 2, which goes down
after that, and key 4 are not written anywhere. -/
theorem awaited_key_is_written_once :
    let m : Machine := { powerOn.poke 514 [0x60, 0x01] with
      pc := 514
      delayTimer := 2
      keypad := ((Keypad.idle.press 5).2.press 6).2.await 3 }
    let operations : List Operation := [.clock, .step 0, .keyUp 5, .clock, .clock]
    let satisfied := m.after (operations ++ [.keyDown 0xB])
    m.halted = false ∧ m.awaiting = some 3 ∧
    (∀ moment ∈ m.history operations, ∀ byte, moment.operation = .step byte →
      moment.result = some (.ok (.awaitingKey 3))) ∧
    satisfied.registers.read 3 = 11 ∧
    (∀ r, r ≠ 3 → satisfied.registers.read r = m.registers.read r) ∧
    satisfied.delayTimer.toNat = 0 ∧
    satisfied.keypad.isHeld 0xB = true ∧ satisfied.keypad.isHeld 6 = true ∧
    satisfied.keypad.isHeld 5 ≠ true ∧
    ((satisfied.after [.step 0, .keyDown 2]).keyDown 4).state.registers =
      (satisfied.after [.step 0, .keyDown 2]).registers := by
  intro m operations
  obtain ⟨steps, -, number, others, delay, -, keys, -, later⟩ :=
    key_wait_is_satisfied_once m 3 operations 0xB rfl rfl (by decide)
  refine ⟨rfl, rfl, steps, UInt8.toNat_inj.mp number, others, delay, ?_, ?_, ?_, ?_⟩
  · exact (keys 0xB).mpr (.inl rfl)
  · exact (keys 6).mpr (.inr ⟨rfl, by decide⟩)
  · intro held
    rcases (keys 5).mp held with same | ⟨-, kept⟩
    · exact absurd same (by decide)
    · exact kept (by decide)
  · exact later [.step 0, .keyDown 2] 4 (by decide +kernel)

end Machine

end Chip8
