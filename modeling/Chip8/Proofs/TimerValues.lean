import Chip8.Machine.History
import Chip8.Proofs.Outcomes
import Mathlib.Data.List.DropRight
import Mathlib.Data.List.Induction

/-!
# Timers from the past

What a timer shows is determined by what has been done to the machine: since it was last set it has
lost one with each tick, down to zero, and a restart sets it to zero.  `Moment.remaining` reads
this off a history, going back from its end: first to the last restart, then to the last instruction
that set the timer.  It looks at the operations, at what was executed and at the registers, and
never at a timer, so that the law says what the timers show in terms of everything else.

The two timers obey one law, and it is proved for either.

## Main definitions

* `Timer`, `Timer.setter`, `Machine.timer` — the two timers, and the families that set them
* `Moment.instruction` — the instruction that was executed, fetched or not
* `Moment.operand` — the content of `VX` when an instruction of a family was executed
* `Moment.remaining` — what a history leaves of the value that was set last

## Main statements

* `performed_timer` — what an instruction does to the timers
* `timing` — what an operation does to them
* `timer_after` — a timer shows what remains
* `timers_follow_history` — the same of both timers, the tone and `FX07`
-/

namespace Chip8

/-- One of the two timers. -/
inductive Timer where
  | delay
  | sound
deriving DecidableEq, Repr

/-- The family that sets the timer to `VX`. -/
def Timer.setter : Timer → Opcode
  | .delay => .setDelayTimer
  | .sound => .setSoundTimer

/-- What the timer shows. -/
def Machine.timer (m : Machine) : Timer → UInt8
  | .delay => m.delayTimer
  | .sound => m.soundTimer

/-! ## Reading a history -/

namespace Moment

/-- The word that a step fetches or that is executed without being fetched. -/
def word? (moment : Moment) : Option Word :=
  match moment.operation with
  | .step _ => moment.before.nextWord.toOption
  | .execute w _ => some w
  | _ => none

/-- The instruction that was executed, by its family and its word. -/
def instruction (moment : Moment) : Option (Opcode × Word) :=
  match moment.result, moment.word? with
  | some (.ok (.executed opcode)), some w => some (opcode, w)
  | _, _ => none

/-- The content of `VX` when an instruction of the family was executed. -/
def operand (family : Opcode) (moment : Moment) : Option UInt8 :=
  match moment.instruction with
  | some (opcode, w) => if opcode = family then some (moment.before.vx w) else none
  | none => none

/-- What has happened since the last restart, if there was one. -/
def sinceRestart (history : List Moment) : List Moment :=
  history.rtakeWhile fun moment => !moment.operation.isRestart

/-- The content of `VX` at the last instruction of the family, or zero if there was none. -/
def lastOperand (family : Opcode) (history : List Moment) : UInt8 :=
  (history.filterMap (operand family)).getLast?.getD 0

/-- The number of ticks of both timers. -/
def ticks (history : List Moment) : Nat :=
  history.countP fun moment => moment.operation = .clock

/-- The number of ticks since the last instruction of the family. -/
def ticksSince (family : Opcode) (history : List Moment) : Nat :=
  ticks (history.rtakeWhile fun moment => (moment.operand family).isNone)

/-- What the ticks have left of the value that was set last since the last restart. -/
def remaining (family : Opcode) (history : List Moment) : Nat :=
  (lastOperand family (sinceRestart history)).toNat - ticksSince family (sinceRestart history)

variable {family : Opcode} {history : List Moment} {last : Moment}

theorem remaining_concat_of_restart (restart : last.operation.isRestart = true) :
    remaining family (history ++ [last]) = 0 := by
  have nothing : sinceRestart (history ++ [last]) = [] :=
    List.rtakeWhile_concat_neg _ _ _ (by simp [restart])
  rw [remaining, nothing]
  rfl

theorem sinceRestart_concat (goesOn : last.operation.isRestart = false) :
    sinceRestart (history ++ [last]) = sinceRestart history ++ [last] :=
  List.rtakeWhile_concat_pos _ _ _ (by simp [goesOn])

theorem remaining_concat_of_operand (goesOn : last.operation.isRestart = false) {value : UInt8}
    (set : last.operand family = some value) :
    remaining family (history ++ [last]) = value.toNat := by
  have operand : lastOperand family (sinceRestart history ++ [last]) = value := by
    simp [lastOperand, set]
  have ticks : ticksSince family (sinceRestart history ++ [last]) = 0 := by
    rw [ticksSince, List.rtakeWhile_concat_neg _ _ _ (by simp [set])]
    rfl
  rw [remaining, sinceRestart_concat goesOn, operand, ticks, Nat.sub_zero]

/-- A moment at which the timer is not set counts only if it is a tick. -/
theorem remaining_concat_of_none (goesOn : last.operation.isRestart = false)
    (kept : last.operand family = none) :
    remaining family (history ++ [last]) = remaining family history - ticks [last] := by
  have operand : lastOperand family (sinceRestart history ++ [last]) =
      lastOperand family (sinceRestart history) := by
    simp [lastOperand, kept]
  have added : ticksSince family (sinceRestart history ++ [last]) =
      ticksSince family (sinceRestart history) + ticks [last] := by
    rw [ticksSince, List.rtakeWhile_concat_pos _ _ _ (by simp [kept]), ticks, List.countP_append]
    rfl
  rw [remaining, sinceRestart_concat goesOn, operand, added, Nat.sub_add_eq, remaining]

theorem ticks_moment (m : Machine) (operation : Operation) :
    ticks [m.moment operation] = if operation = .clock then 1 else 0 := by
  unfold ticks
  by_cases clock : operation = .clock <;> simp [Machine.moment, clock]

theorem operand_of_instruction (family : Opcode) {opcode : Opcode} {w : Word}
    (instruction : last.instruction = some (opcode, w)) :
    last.operand family = if opcode = family then some (last.before.vx w) else none := by
  rw [operand, instruction]

theorem operand_of_instruction_eq_none (family : Opcode) (instruction : last.instruction = none) :
    last.operand family = none := by
  rw [operand, instruction]

end Moment

namespace Machine

variable {m : Machine}

/-! ## Instructions and operations -/

theorem skipWhen_timer (m : Machine) (condition : Bool) (t : Timer) :
    (m.skipWhen condition).timer t = m.timer t := by
  cases condition <;> rfl

/-- A timer is changed by the family that sets it, and by no other. -/
theorem performed_timer (m : Machine) (opcode : Opcode) (w : Word) (byte : UInt8) (t : Timer) :
    (m.performed opcode w byte).timer t = if opcode = t.setter then m.vx w else m.timer t := by
  cases opcode with
  | skipEqX | skipNeqX | skipXEqY | skipXNeqY | skipIfKeyPressed | skipIfKeyNotPressed =>
      cases t <;> exact skipWhen_timer m _ _
  | _ => cases t <;> rfl

/-- What an operation does to the timers. -/
inductive Timing (m : Machine) (operation : Operation) : Prop
  | restarted (restart : operation.isRestart = true)
      (timers : ∀ t, (m.apply operation).state.timer t = 0)
  /-- An instruction is executed, fetched or not; where the program counter stands meanwhile has no
  part in what it does to the timers. -/
  | executed (opcode : Opcode) (w : Word) (byte : UInt8) (pc : UInt16)
      (goesOn : operation.isRestart = false) (noTick : operation ≠ .clock)
      (instruction : (m.moment operation).instruction = some (opcode, w))
      (state : (m.apply operation).state = { m with pc := pc }.performed opcode w byte)
  | ticked (clock : operation = .clock)
  | kept (goesOn : operation.isRestart = false) (noTick : operation ≠ .clock)
      (instruction : (m.moment operation).instruction = none)
      (timers : ∀ t, (m.apply operation).state.timer t = m.timer t)

section Reply

variable {w : Word} {byte : UInt8} {result : Except Error Outcome} {next : Machine}
  {log : List Event} {operation : Operation}

theorem apply_step_of_reply (reply : m.step byte = ⟨result, next, log⟩) :
    m.apply (.step byte) = ⟨some result, next, log⟩ := by
  simp only [apply, reply]

theorem apply_execute_of_reply (reply : m.execute w byte = ⟨result, next, log⟩) :
    m.apply (.execute w byte) = ⟨some result, next, log⟩ := by
  simp only [apply, reply]

/-- An operation that gives something else back than an instruction keeps the timers, if its state
does. -/
theorem Timing.of_reply (goesOn : operation.isRestart = false) (noTick : operation ≠ .clock)
    (applied : m.apply operation = ⟨some result, next, log⟩)
    (other : ∀ opcode, result ≠ .ok (.executed opcode)) (timers : ∀ t, next.timer t = m.timer t) :
    Timing m operation := by
  refine .kept goesOn noTick ?_ (by rwa [applied])
  unfold Moment.instruction
  split
  · next opcode w found _ =>
    rw [moment, applied] at found
    exact absurd (Option.some.inj found) (other opcode)
  · rfl

end Reply

theorem timing_step (m : Machine) (byte : UInt8) : Timing m (.step byte) := by
  have noTick : Operation.step byte ≠ .clock := by simp
  cases m.cycle byte with
  | executed w opcode next ready fetch nonzero family effect reply =>
      obtain ⟨-, rfl⟩ := perform_eq_ok_iff.mp effect
      have instruction : (m.moment (.step byte)).instruction = some (opcode, w) := by
        simp only [moment, apply, Moment.instruction, Moment.word?, reply, fetch, Except.toOption]
      exact .executed opcode w byte (m.pc + 2) rfl noTick instruction (congrArg Reply.state reply)
  | halted before reply | waiting _ _ before reply =>
      exact .of_reply rfl noTick (apply_step_of_reply reply) (by simp) fun _ => rfl
  | unfetched e ready fetch reply | ended ready fetch reply =>
      exact .of_reply rfl noTick (apply_step_of_reply reply) (by simp) fun _ => rfl
  | unknown w ready fetch nonzero family reply =>
      exact .of_reply rfl noTick (apply_step_of_reply reply) (by simp) fun _ => rfl
  | refused w opcode e left ready fetch nonzero family effect reply =>
      obtain ⟨-, rfl⟩ := perform_eq_error_iff.mp effect
      exact .of_reply rfl noTick (apply_step_of_reply reply) (by simp) fun _ => rfl

theorem timing_execute (m : Machine) (w : Word) (byte : UInt8) : Timing m (.execute w byte) := by
  have noTick : Operation.execute w byte ≠ .clock := by simp
  cases family : Opcode.decode w with
  | none =>
      have reply := execute_of_unknown (m := m) family byte
      exact .of_reply rfl noTick (apply_execute_of_reply reply) (by simp) fun _ => rfl
  | some opcode =>
      cases accepted : m.refusal opcode w with
      | none =>
          have reply := execute_of_accepted family accepted byte
          have instruction : (m.moment (.execute w byte)).instruction = some (opcode, w) := by
            simp only [moment, apply, Moment.instruction, Moment.word?, reply]
          exact .executed opcode w byte m.pc rfl noTick instruction (congrArg Reply.state reply)
      | some e =>
          have reply := execute_of_refused family accepted byte
          exact .of_reply rfl noTick (apply_execute_of_reply reply) (by simp) fun _ => rfl

theorem timing (m : Machine) (operation : Operation) : Timing m operation := by
  cases operation with
  | step byte => exact timing_step m byte
  | execute w byte => exact timing_execute m w byte
  | clock => exact .ticked rfl
  | keyDown k =>
      refine .kept rfl (by simp) rfl fun t => ?_
      rw [apply, keyDown_state]
      cases t <;> rfl
  | keyUp k | setRegister r value | setMode mode | poke a bytes =>
      exact .kept rfl (by simp) rfl fun _ => rfl
  | reset clearMemory | load image =>
      refine .restarted rfl fun t => ?_
      cases t <;> rfl

/-! ## Runs -/

@[simp] theorem tick_timer (m : Machine) (t : Timer) : m.tick.timer t = countDown (m.timer t) := by
  cases t <;> rfl

/-- A timer shows what remains of the value it was set to. -/
theorem timer_after (operations : List Operation) (t : Timer) :
    ((powerOn.after operations).timer t).toNat =
      Moment.remaining t.setter (powerOn.history operations) := by
  induction operations using List.reverseRecOn with
  | nil => cases t <;> rfl
  | append_singleton operations last ih =>
      rw [after_concat, history_concat]
      cases (powerOn.after operations).timing last with
      | restarted restart timers =>
          rw [timers, Moment.remaining_concat_of_restart restart]
          rfl
      | ticked clock =>
          subst clock
          have ticks := Moment.ticks_moment (powerOn.after operations) .clock
          rw [if_pos rfl] at ticks
          rw [Moment.remaining_concat_of_none rfl rfl, ticks, ← ih]
          exact (congrArg UInt8.toNat (tick_timer _ t)).trans (toNat_countDown _)
      | kept goesOn noTick instruction timers =>
          have kept := Moment.operand_of_instruction_eq_none t.setter instruction
          rw [timers, ih, Moment.remaining_concat_of_none goesOn kept, Moment.ticks_moment,
            if_neg noTick, Nat.sub_zero]
      | executed opcode w byte pc goesOn noTick instruction state =>
          have operand := Moment.operand_of_instruction t.setter instruction
          rw [state, performed_timer]
          by_cases sets : opcode = t.setter
          · rw [if_pos sets] at operand ⊢
            rw [Moment.remaining_concat_of_operand goesOn operand]
            rfl
          · rw [if_neg sets] at operand ⊢
            rw [Moment.remaining_concat_of_none goesOn operand, Moment.ticks_moment, if_neg noTick,
              Nat.sub_zero, ← ih]
            cases t <;> rfl

/-- `FX07` writes what the delay timer shows. -/
theorem registers_of_setVxFromTimer {operation : Operation} {w : Word}
    (instruction : (m.moment operation).instruction = some (.setVxFromTimer, w)) :
    (m.apply operation).state.registers = m.registers.write w.x m.delayTimer := by
  cases m.timing operation with
  | executed opcode v byte pc goesOn noTick found state =>
      cases Option.some.inj (found.symm.trans instruction)
      rw [state]
      rfl
  | ticked clock =>
      subst clock
      cases instruction
  | kept goesOn noTick none timers =>
      rw [none] at instruction
      cases instruction
  | restarted restart timers =>
      cases operation with
      | reset clearMemory | load image => cases instruction
      | _ => cases restart

/-- **What the timers show follows from the history.**  Take any run from power-on of steps, words
that are executed without being fetched, ticks, keys that go down or up, changes of registers, of
the mode or of the memory, resets and programs that are loaded, in any order.  In the state it
reaches the delay timer shows the value that `VX` had at the last `FX15` since the last restart, or
zero if there was none, less the number of ticks since then, but not less than zero; the sound timer
shows the same of `FX18`.  The tone sounds exactly if that is more than zero.  And an `FX07` that is
executed next writes exactly what the delay timer shows. -/
theorem timers_follow_history (operations : List Operation) :
    let m := powerOn.after operations
    let delay := Moment.remaining .setDelayTimer (powerOn.history operations)
    let sound := Moment.remaining .setSoundTimer (powerOn.history operations)
    m.delayTimer.toNat = delay ∧ m.soundTimer.toNat = sound ∧
    (m.sounding = true ↔ 0 < sound) ∧
    ∀ (next : Operation) (w : Word),
      (m.moment next).instruction = some (.setVxFromTimer, w) →
      (m.apply next).state.registers = m.registers.write w.x (UInt8.ofNat delay) := by
  intro m delay sound
  have delayed : m.delayTimer.toNat = delay := timer_after operations .delay
  have sounded : m.soundTimer.toNat = sound := timer_after operations .sound
  refine ⟨delayed, sounded, ?_, ?_⟩
  · rw [← sounded, sounding, decide_eq_true_eq, gt_iff_lt, UInt8.lt_iff_toNat_lt]
    rfl
  · intro next w instruction
    rw [← delayed, UInt8.ofNat_toNat]
    exact registers_of_setVxFromTimer instruction

/-- A program sets the delay timer to 5; two ticks later the sound timer is set to 5 as well, and
there is another tick.  Then the delay timer shows 2, which `F107` writes, and the sound timer 4. -/
theorem delay_of_five_after_three_ticks :
    let operations : List Operation :=
      [.setRegister 0 9, .load [0x60, 0x05, 0xF0, 0x15, 0xF1, 0x07], .step 0, .step 0, .clock,
        .clock, .execute 0xF018 0, .clock]
    let m := powerOn.after operations
    m.delayTimer.toNat = 2 ∧ m.soundTimer.toNat = 4 ∧ m.sounding = true ∧
    (m.moment (.step 0)).instruction = some (.setVxFromTimer, 0xF107) ∧
    (m.apply (.step 0)).state.registers = m.registers.write 1 2 := by
  intro operations m
  obtain ⟨delay, sound, reads⟩ :
      Moment.remaining .setDelayTimer (powerOn.history operations) = 2 ∧
      Moment.remaining .setSoundTimer (powerOn.history operations) = 4 ∧
      (m.moment (.step 0)).instruction = some (.setVxFromTimer, 0xF107) := by decide +kernel
  obtain ⟨delayed, sounded, sounding, written⟩ := timers_follow_history operations
  have register : Word.x 0xF107 = 1 := by decide +kernel
  have two : UInt8.ofNat 2 = 2 := rfl
  have registers := written (.step 0) 0xF107 reads
  rw [delay] at delayed
  rw [delay, register, two] at registers
  rw [sound] at sounded sounding
  refine ⟨delayed, sounded, sounding.mpr (by decide), reads, ?_⟩
  unfold m
  exact registers

end Machine

end Chip8
