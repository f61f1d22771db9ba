import Chip8.Proofs.TimerValues
import Chip8.Proofs.Timers
import Chip8.Run
import Mathlib.Logic.Function.Iterate

/-!
# Steps and ticks

Steps and ticks of the timers come from two clocks that do not know of each other.  A tick has no
part in how a step goes, and a step that executes no timer instruction leaves the timers to the
ticks.  So the two can change places, and every way to place some ticks among such steps comes to
the same as taking all the steps first.

## Main definitions

* `Pulse` — a step or a tick
* `Machine.Drive`, `Machine.drive` — what a list of pulses does, with the random bytes from a stream
* `Machine.Drive.Untimed` — no timer instruction is executed
* `Machine.Drive.tick` — ticks that come last

## Main statements

* `step_tick` — a tick before a step or after it
* `drive_tick` — a tick before any number of steps or after them
* `drive_eq_tick_steps` — the ticks of a list of pulses, taken last
* `ticks_may_be_placed_anywhere` — all ways to place ticks among steps come to the same
-/

namespace Chip8

/-- What one of the two clocks asks for. -/
inductive Pulse where
  | step
  | tick
deriving DecidableEq, Repr

/-- The families that read or set a timer. -/
def Opcode.isTimed : Opcode → Bool
  | .setVxFromTimer | .setDelayTimer | .setSoundTimer => true
  | _ => false

namespace Machine

variable {m n : Machine} {entropy : Entropy} {byte : UInt8}

/-- What a list of pulses leaves: the outcomes and errors of the steps, in order, the state, and the
stream of random bytes. -/
structure Drive where
  results : List (Except Error Outcome)
  machine : Machine
  entropy : Entropy

namespace Drive

/-- The same with a step before it. -/
def prepend (result : Except Error Outcome) (d : Drive) : Drive :=
  { d with results := result :: d.results }

/-- The same with `count` ticks behind it. -/
def tick (count : Nat) (d : Drive) : Drive :=
  { d with machine := Machine.tick^[count] d.machine }

/-- No instruction that was executed reads or sets a timer. -/
def Untimed (d : Drive) : Prop :=
  ∀ opcode, .ok (.executed opcode) ∈ d.results → opcode.isTimed = false

end Drive

/-- Takes steps and lets the timers tick, as the pulses come. -/
def drive (m : Machine) (entropy : Entropy) : List Pulse → Drive
  | [] => ⟨[], m, entropy⟩
  | .step :: rest =>
    let reply := m.step entropy.next
    (reply.state.drive (entropy.after reply.result) rest).prepend reply.result
  | .tick :: rest => m.tick.drive entropy rest

theorem drive_step (m : Machine) (entropy : Entropy) (rest : List Pulse) :
    m.drive entropy (.step :: rest) =
      ((m.step entropy.next).state.drive (entropy.after (m.step entropy.next).result) rest).prepend
        (m.step entropy.next).result := rfl

/-! ## One step -/

/-- States that agree on everything but the timers differ by a tick, if the timers do. -/
theorem SameButTimers.eq_tick (same : m.SameButTimers n)
    (timers : ∀ t, n.timer t = countDown (m.timer t)) : n = m.tick := by
  have delay : n.delayTimer = countDown m.delayTimer := timers .delay
  have sound : n.soundTimer = countDown m.soundTimer := timers .sound
  calc n = m.withTimers n.delayTimer n.soundTimer := same
    _ = m.withTimers (countDown m.delayTimer) (countDown m.soundTimer) := by rw [delay, sound]
    _ = m.tick := rfl

/-- A tick before an instruction is a tick after it, unless the instruction is about timers. -/
theorem performed_tick {opcode : Opcode} (untimed : opcode.isTimed = false) (m : Machine) (w : Word)
    (byte : UInt8) : m.tick.performed opcode w byte = (m.performed opcode w byte).tick := by
  have reads : opcode ≠ .setVxFromTimer := by
    rintro rfl
    cases untimed
  have sets (t : Timer) : opcode ≠ t.setter := by
    rintro rfl
    cases t <;> cases untimed
  refine (performed_withTimers reads m _ _ w byte).eq_tick fun t => ?_
  rw [performed_timer, performed_timer, if_neg (sets t), if_neg (sets t)]
  exact tick_timer m t

/-- A tick before a step is a tick after it, unless the step executes a timer instruction. -/
theorem step_tick (untimed : ∀ opcode, (m.step byte).result = .ok (.executed opcode) →
    opcode.isTimed = false) : (m.tick.step byte).state = (m.step byte).state.tick := by
  cases lockstep (sameButTimers_tick m).inStep byte with
  | stayed result log left right => rw [left, right]
  | ended left right | passed w left right =>
      rw [left, right]
      rfl
  | executed w opcode ready fetch family accepted left right =>
      rw [left, right]
      exact performed_tick (untimed opcode (congrArg Reply.result left)) { m with pc := m.pc + 2 }
        w byte

/-! ## Any number of steps -/

theorem Drive.Untimed.head {result : Except Error Outcome} {d : Drive}
    (untimed : (d.prepend result).Untimed) (opcode : Opcode)
    (executed : result = .ok (.executed opcode)) : opcode.isTimed = false :=
  untimed opcode (executed ▸ List.mem_cons_self)

theorem Drive.Untimed.rest {result : Except Error Outcome} {d : Drive}
    (untimed : (d.prepend result).Untimed) : d.Untimed :=
  fun opcode executed => untimed opcode (List.mem_cons_of_mem _ executed)

/-- A tick before some steps is a tick after them. -/
theorem drive_tick (count : Nat) (untimed : (m.drive entropy (.replicate count .step)).Untimed) :
    m.tick.drive entropy (.replicate count .step) =
      (m.drive entropy (.replicate count .step)).tick 1 := by
  induction count generalizing m entropy with
  | zero => rfl
  | succ count ih =>
      rw [List.replicate_succ, drive_step] at untimed ⊢
      have result := (sameButTimers_tick m).inStep.result entropy.next
      rw [drive_step, step_tick untimed.head, result, ih untimed.rest]
      rfl

/-- All the ticks of a list of pulses can be taken last. -/
theorem drive_eq_tick_steps (m : Machine) (entropy : Entropy) (pulses : List Pulse)
    (untimed : (m.drive entropy (.replicate (pulses.count .step) .step)).Untimed) :
    m.drive entropy pulses =
      (m.drive entropy (.replicate (pulses.count .step) .step)).tick (pulses.count .tick) := by
  induction pulses generalizing m entropy with
  | nil => rfl
  | cons pulse rest ih =>
      cases pulse with
      | step =>
          have ticks : (Pulse.step :: rest).count .tick = rest.count .tick :=
            List.count_cons_of_ne (by decide)
          rw [List.count_cons_self, List.replicate_succ, drive_step] at untimed ⊢
          rw [drive_step, ih _ _ untimed.rest, ticks]
          rfl
      | tick =>
          have steps : (Pulse.tick :: rest).count .step = rest.count .step :=
            List.count_cons_of_ne (by decide)
          rw [steps] at untimed ⊢
          -- the steps behind the tick are those without it
          have later := drive_tick _ untimed
          have stays : (m.tick.drive entropy (.replicate (rest.count .step) .step)).Untimed := by
            rw [later]
            exact untimed
          rw [drive, ih _ _ stays, later, List.count_cons_self]
          rfl

/-- **Steps and ticks are independent.**  Take any state, any stream of random bytes, and some steps
that execute none of `FX07`, `FX15` and `FX18`, however they go otherwise: some may fail, and the
program may wait for a key or come to its end.  For every way to place ticks before, among and after
these steps, the outcomes and errors are those of the steps alone, in the same order, as many random
bytes are used, and the state is the one after the steps with all the ticks behind them. -/
theorem ticks_may_be_placed_anywhere (m : Machine) (entropy : Entropy) (steps ticks : Nat)
    (untimed : ∀ opcode,
      .ok (.executed opcode) ∈ (m.drive entropy (List.replicate steps .step)).results →
      opcode ≠ .setVxFromTimer ∧ opcode ≠ .setDelayTimer ∧ opcode ≠ .setSoundTimer)
    (pulses : List Pulse) (allSteps : pulses.count .step = steps)
    (allTicks : pulses.count .tick = ticks) :
    let alone := m.drive entropy (List.replicate steps .step)
    m.drive entropy pulses =
      m.drive entropy (List.replicate steps .step ++ List.replicate ticks .tick) ∧
    (m.drive entropy pulses).results = alone.results ∧
    (m.drive entropy pulses).entropy = alone.entropy ∧
    (m.drive entropy pulses).machine = tick^[ticks] alone.machine := by
  intro alone
  have plain : alone.Untimed := by
    intro opcode executed
    obtain ⟨reads, delays, sounds⟩ := untimed opcode executed
    cases opcode with
    | setVxFromTimer => exact absurd rfl reads
    | setDelayTimer => exact absurd rfl delays
    | setSoundTimer => exact absurd rfl sounds
    | _ => rfl
  have anyWay (pulses : List Pulse) (allSteps : pulses.count .step = steps)
      (allTicks : pulses.count .tick = ticks) : m.drive entropy pulses = alone.tick ticks := by
    have taken := drive_eq_tick_steps m entropy pulses (by rwa [allSteps])
    rwa [allSteps, allTicks] at taken
  have here := anyWay pulses allSteps allTicks
  have there := anyWay (List.replicate steps .step ++ List.replicate ticks .tick)
    (by simp [List.count_replicate]) (by simp [List.count_replicate])
  rw [here, there]
  exact ⟨rfl, rfl, rfl, rfl⟩

/-- Both timers show 2 when a program draws a random byte, adds to it and then returns without a
call, which fails again and again.  Three ticks among four steps make no difference. -/
theorem ticks_among_failing_steps :
    let m := powerOn.after [.load [0xC1, 0xFF, 0x71, 0x01, 0x00, 0xEE], .setRegister 2 2,
      .execute 0xF215 0, .execute 0xF218 0]
    let entropy : Entropy := ⟨fun i => UInt8.ofNat (i + 40), 0⟩
    let pulses : List Pulse := [.tick, .step, .tick, .step, .tick, .step, .step]
    pulses.count .step = 4 ∧ pulses.count .tick = 3 ∧
    (m.drive entropy pulses).results = [.ok (.executed .random), .ok (.executed .add),
      .error .stackUnderflow, .error .stackUnderflow] ∧
    (m.drive entropy pulses).entropy.used = 1 ∧
    (m.drive entropy pulses).machine.registers.read 1 = 41 ∧
    (m.drive entropy pulses).machine.delayTimer = 0 := by
  intro m entropy pulses
  obtain ⟨results, used, register, delay⟩ :
      (m.drive entropy (List.replicate 4 .step)).results = [.ok (.executed .random),
        .ok (.executed .add), .error .stackUnderflow, .error .stackUnderflow] ∧
      (m.drive entropy (List.replicate 4 .step)).entropy.used = 1 ∧
      (tick^[3] (m.drive entropy (List.replicate 4 .step)).machine).registers.read 1 = 41 ∧
      (tick^[3] (m.drive entropy (List.replicate 4 .step)).machine).delayTimer = 0 := by
    decide +kernel
  have untimed (opcode : Opcode)
      (executed : .ok (.executed opcode) ∈ (m.drive entropy (List.replicate 4 .step)).results) :
      opcode ≠ .setVxFromTimer ∧ opcode ≠ .setDelayTimer ∧ opcode ≠ .setSoundTimer := by
    rw [results] at executed
    simp only [List.mem_cons, Except.ok.injEq, Outcome.executed.injEq, reduceCtorEq, or_false,
      List.not_mem_nil] at executed
    rcases executed with rfl | rfl <;> decide
  obtain ⟨-, sameResults, sameEntropy, sameMachine⟩ :=
    ticks_may_be_placed_anywhere m entropy 4 3 untimed pulses rfl rfl
  rw [sameResults, sameEntropy, sameMachine]
  exact ⟨rfl, rfl, results, used, register, delay⟩

end Machine

end Chip8
