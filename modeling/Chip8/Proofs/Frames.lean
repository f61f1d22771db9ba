import Chip8.Proofs.SessionFault
import Mathlib.Algebra.GroupWithZero.Nat

/-!
# How instructions are cut into frames

A frame executes some instructions and then lets the timers tick once.  It leaves its instructions
early when the program has come to its end, when a register waits for a key, and when a step fails.
None of this depends on where the frames end: a machine that has come to its end or waits absorbs
every further step, and after a fault nothing is tried again.

So the instructions of a session can be taken one by one, without any frames: `Session.steps` does
that, and it agrees with every way to cut them into frames, but for the timers.  `FX07` reads what
the ticks in between have changed, so this ends where it is executed.

To say which calls a frame makes, its operations are recorded: the steps it takes, and its tick.

## Main definitions

* `Run.operations`, `Session.operations`, `Session.allOperations` — what a run, a frame and a list
  of frames do to the machine
* `Session.step`, `Session.steps` — instructions without frames
* `Session.SameButTimers`, `Stretch.Alike` — what two stretches of play have in common

## Main statements

* `steps_upTo` — a run that ends early has done what all its steps would have done
* `steps_alike` — from sessions that differ in the timers the steps go alike
* `frames_alike` — frames do what their instructions do without frames
* `frames_may_be_cut_anywhere` — two ways to cut the same instructions, and the ticks of the frames
-/

namespace Chip8

/-! ## The operations of a run -/

namespace Run

variable {r : Run}

/-- The steps that the run takes up to the limit, each with the random byte it may use. -/
def operations : (limit : Nat) → Run → List Operation
  | 0, _ => []
  | limit + 1, r => if r.goesOn then .step r.entropy.next :: operations limit r.step else []

theorem operations_succ (limit : Nat) (r : Run) :
    r.operations (limit + 1) =
      if r.goesOn then .step r.entropy.next :: r.step.operations limit else [] := rfl

theorem after_operations (limit : Nat) (r : Run) :
    r.machine.after (r.operations limit) = (r.advance limit).machine := by
  induction limit generalizing r with
  | zero => rfl
  | succ limit ih =>
      rw [operations_succ, advance_succ]
      split
      · exact ih r.step
      · rfl

theorem isStep_of_mem_operations {limit : Nat} {operation : Operation}
    (mem : operation ∈ r.operations limit) : ∃ byte, operation = .step byte := by
  induction limit generalizing r with
  | zero => cases mem
  | succ limit ih =>
      rw [operations_succ] at mem
      split at mem
      · rcases List.mem_cons.mp mem with rfl | later
        · exact ⟨_, rfl⟩
        · exact ih later
      · cases mem

theorem error?_of_goesOn (goesOn : r.goesOn = true) : r.error? = none := by
  rw [Run.goesOn] at goesOn
  rw [error?]
  split
  · next last =>
      rw [last] at goesOn
      cases goesOn
  · rfl

/-- A run that has ended without an error has left a machine that does not go on. -/
def Settled (r : Run) : Prop :=
  r.goesOn = false → r.error? = none → ¬ r.machine.Ready

theorem settled_start (m : Machine) (entropy : Entropy) : (Run.start m entropy).Settled :=
  nofun

theorem settled_step (r : Run) : r.step.Settled := by
  intro ended unharmed
  cases r.machine.cycle r.entropy.next with
  | halted before reply =>
      simp only [step, reply]
      exact Machine.not_ready_of_halted before
  | waiting target running awaited reply =>
      simp only [step, reply]
      exact Machine.not_ready_of_awaiting awaited
  | ended ready fetch reply =>
      simp only [step, reply]
      exact Machine.not_ready_of_halted rfl
  | unfetched e ready fetch reply
  | refused w opcode e left ready fetch nonzero family effect reply =>
      simp only [step, reply] at unharmed
      cases unharmed
  | unknown w ready fetch nonzero family reply
  | executed w opcode next ready fetch nonzero family effect reply =>
      simp only [step, reply] at ended
      cases ended

end Run

/-- A step that does not go on to another word uses no random byte. -/
theorem Entropy.after_of_not_proceeds {outcome : Outcome} (stays : outcome.proceeds = false)
    (entropy : Entropy) : entropy.after (.ok outcome) = entropy := by
  cases outcome with
  | executed opcode => cases stays
  | _ => rfl

namespace Session

variable {s t u : Session} {e : Error}

/-! ## Sessions that differ in the timers -/

/-- The two sessions agree on everything but the timers of the machine. -/
structure SameButTimers (s t : Session) : Prop where
  others : t = { s with machine := t.machine }
  machine : s.machine.SameButTimers t.machine

theorem SameButTimers.refl (s : Session) : s.SameButTimers s :=
  ⟨rfl, .refl _⟩

theorem SameButTimers.symm (same : s.SameButTimers t) : t.SameButTimers s where
  others := by
    rw [same.others]
  machine := same.machine.symm

theorem SameButTimers.trans (first : s.SameButTimers t) (second : t.SameButTimers u) :
    s.SameButTimers u where
  others := by
    rw [second.others, first.others]
  machine := first.machine.trans second.machine

theorem SameButTimers.fault (same : s.SameButTimers t) : t.fault = s.fault := by
  rw [same.others]

theorem SameButTimers.entropy (same : s.SameButTimers t) : t.entropy = s.entropy := by
  rw [same.others]

/-! ## Stretches of play -/

/-- What a stretch of play leaves: the families of the instructions that were executed, in order,
and the session. -/
structure Stretch where
  families : List Opcode
  state : Session

namespace Stretch

variable {p q r : Stretch}

/-- The stretch with what was executed before it. -/
def prepend (before : List Opcode) (p : Stretch) : Stretch :=
  { p with families := before ++ p.families }

/-- If `FX07` is not executed in one of the two stretches, they execute the same and leave the same
but for the timers. -/
def Alike (p q : Stretch) : Prop :=
  .setVxFromTimer ∉ p.families ∨ .setVxFromTimer ∉ q.families →
    p.families = q.families ∧ p.state.SameButTimers q.state

theorem Alike.refl (p : Stretch) : p.Alike p :=
  fun _ => ⟨rfl, .refl _⟩

theorem Alike.symm (alike : p.Alike q) : q.Alike p := by
  intro untimed
  obtain ⟨families, state⟩ := alike untimed.symm
  exact ⟨families.symm, state.symm⟩

theorem Alike.trans (first : p.Alike q) (second : q.Alike r) : p.Alike r := by
  -- what is not executed at one end is not executed in the middle
  have middle (untimed : .setVxFromTimer ∉ p.families ∨ .setVxFromTimer ∉ r.families) :
      .setVxFromTimer ∉ q.families := by
    rcases untimed with untimed | untimed
    · rwa [← (first (.inl untimed)).1]
    · rwa [(second (.inr untimed)).1]
  intro untimed
  obtain ⟨one, before⟩ := first (.inr (middle untimed))
  obtain ⟨other, after⟩ := second (.inl (middle untimed))
  exact ⟨one.trans other, before.trans after⟩

theorem Alike.prepend (alike : p.Alike q) (before : List Opcode) :
    (p.prepend before).Alike (q.prepend before) := by
  intro untimed
  have later : .setVxFromTimer ∉ p.families ∨ .setVxFromTimer ∉ q.families :=
    untimed.imp (fun none mem => none (List.mem_append_right _ mem))
      fun none mem => none (List.mem_append_right _ mem)
  obtain ⟨families, state⟩ := alike later
  exact ⟨congrArg (before ++ ·) families, state⟩

end Stretch

/-! ## Instructions without frames -/

/-- The session once a run has come as far as `r`. -/
def upTo (s : Session) (r : Run) : Session :=
  { s with machine := r.machine, entropy := r.entropy, fault := r.error? }

/-- One step of the machine, unless there is a fault. -/
def step (s : Session) : Session :=
  if s.fault.isSome then s else s.upTo (Run.start s.machine s.entropy).step

/-- The family of the instruction that the next step executes, if it executes one. -/
def stepFamily (s : Session) : Option Opcode :=
  if s.fault.isSome then none else (s.machine.moment (.step s.entropy.next)).executed

/-- Any number of steps, one after the other. -/
def steps : (count : Nat) → Session → Stretch
  | 0, s => ⟨[], s⟩
  | count + 1, s => (steps count s.step).prepend s.stepFamily.toList

theorem steps_succ (count : Nat) (s : Session) :
    s.steps (count + 1) = (s.step.steps count).prepend s.stepFamily.toList := rfl

theorem steps_add (a b : Nat) (s : Session) :
    s.steps (a + b) = ((s.steps a).state.steps b).prepend (s.steps a).families := by
  induction a generalizing s with
  | zero => rw [Nat.zero_add]; rfl
  | succ a ih =>
      rw [Nat.succ_add, steps_succ, steps_succ, ih]
      simp only [Stretch.prepend, List.append_assoc]

/-- After a fault, and while the machine does not go on, a step changes nothing. -/
theorem step_of_idle (idle : s.fault.isSome ∨ ¬ s.machine.Ready) :
    s.step = s ∧ s.stepFamily = none := by
  rw [step, stepFamily]
  cases fault : s.fault with
  | some e => exact ⟨rfl, rfl⟩
  | none =>
      rw [fault] at idle
      obtain ⟨outcome, reply, stays⟩ :=
        Machine.step_of_not_ready (idle.resolve_left nofun) s.entropy.next
      rw [Option.isSome_none, if_neg Bool.false_ne_true, if_neg Bool.false_ne_true]
      constructor
      · simp only [upTo, Run.step, Run.start, Run.error?, reply,
          Entropy.after_of_not_proceeds stays, ← fault]
      · simp only [Machine.moment, Machine.apply, Moment.executed, reply]
        cases outcome with
        | executed opcode => cases stays
        | _ => rfl

theorem steps_of_idle (idle : s.fault.isSome ∨ ¬ s.machine.Ready) (count : Nat) :
    s.steps count = ⟨[], s⟩ := by
  obtain ⟨step, family⟩ := step_of_idle idle
  induction count with
  | zero => rfl
  | succ count ih =>
      rw [steps_succ, step, family, ih]
      rfl

/-- A run does what all its steps would do, though it may have ended before. -/
theorem steps_upTo {r : Run} (settled : r.Settled) (s : Session) (count : Nat) :
    (s.upTo r).steps count =
      ⟨r.machine.executed (r.operations count), s.upTo (r.advance count)⟩ := by
  induction count generalizing r with
  | zero => rfl
  | succ count ih =>
      rw [Run.operations_succ, Run.advance_succ]
      cases goesOn : r.goesOn with
      | true =>
          have unharmed : (s.upTo r).fault.isSome = false := by
            rw [upTo, Run.error?_of_goesOn goesOn, Option.isSome_none]
          have step : (s.upTo r).step = s.upTo r.step := by
            rw [Session.step, unharmed, if_neg Bool.false_ne_true]
            rfl
          have family : (s.upTo r).stepFamily =
              (r.machine.moment (.step r.entropy.next)).executed := by
            rw [stepFamily, unharmed, if_neg Bool.false_ne_true]
            rfl
          rw [steps_succ, step, family, ih (Run.settled_step r), if_pos rfl, if_pos rfl,
            Machine.executed_cons]
          rfl
      | false =>
          have idle : (s.upTo r).fault.isSome ∨ ¬ (s.upTo r).machine.Ready := by
            cases error : r.error? with
            | some e => exact .inl (congrArg Option.isSome error)
            | none => exact .inr (settled goesOn error)
          rw [steps_of_idle idle, if_neg Bool.false_ne_true, if_neg Bool.false_ne_true]
          rfl

/-- A step that does not execute `FX07` leaves two such sessions as two such sessions. -/
theorem SameButTimers.step (same : s.SameButTimers t)
    (untimed : s.stepFamily ≠ some .setVxFromTimer) : s.step.SameButTimers t.step := by
  rw [Session.step, Session.step, same.fault]
  rw [stepFamily] at untimed
  split
  · exact same
  · next unharmed =>
      rw [if_neg unharmed] at untimed
      have result := same.machine.inStep.result s.entropy.next
      have state := same.machine.step (Machine.step_result_of_executed untimed)
      refine ⟨?_, ?_⟩
      · simp only [upTo, Run.step, Run.start, Run.error?, same.entropy, result]
        rw [same.others]
      · simp only [upTo, Run.step, Run.start, same.entropy]
        exact state

/-- From two such sessions the steps go alike. -/
theorem steps_alike (same : s.SameButTimers t) (count : Nat) :
    (s.steps count).Alike (t.steps count) := by
  induction count generalizing s t with
  | zero => exact fun _ => ⟨rfl, same⟩
  | succ count ih =>
      have family : t.stepFamily = s.stepFamily := by
        rw [stepFamily, stepFamily, same.fault, same.entropy, same.machine.inStep.executed]
      rw [steps_succ, steps_succ, family]
      by_cases timed : s.stepFamily = some .setVxFromTimer
      · -- `FX07` is executed in both, so nothing is said of what they leave
        have executed (later : List Opcode) :
            .setVxFromTimer ∈ s.stepFamily.toList ++ later := by
          rw [timed]
          exact List.mem_cons_self
        intro untimed
        exact (untimed.elim (· (executed _)) (· (executed _))).elim
      · exact (ih (same.step timed)).prepend _

/-! ## Frames -/

/-- What the instructions of a frame and its tick do to the machine.  After a fault there are
none. -/
def operations (s : Session) (count : Nat) : List Operation :=
  if s.fault.isSome then [] else (Run.start s.machine s.entropy).operations count ++ [.clock]

/-- The session after frames with the given numbers of instructions, with nothing in between. -/
def runAll (s : Session) (counts : List Nat) : Session :=
  counts.foldl (fun t count => (t.run count).state) s

/-- What these frames do to the machine. -/
def allOperations (s : Session) : (counts : List Nat) → List Operation
  | [] => []
  | count :: rest => s.operations count ++ (s.run count).state.allOperations rest

theorem upTo_start (unharmed : s.fault = none) : s.upTo (Run.start s.machine s.entropy) = s := by
  rw [upTo, Run.error?, Run.start, ← unharmed]

theorem operations_of_fault (fault : s.fault = some e) (count : Nat) : s.operations count = [] := by
  rw [operations, fault, Option.isSome_some, if_pos rfl]

theorem operations_of_unharmed (unharmed : s.fault = none) (count : Nat) :
    s.operations count = (Run.start s.machine s.entropy).operations count ++ [.clock] := by
  rw [operations, unharmed, Option.isSome_none, if_neg Bool.false_ne_true]

/-- The recorded operations are those of the frame. -/
theorem after_operations (s : Session) (count : Nat) :
    s.machine.after (s.operations count) = (s.run count).state.machine := by
  cases fault : s.fault with
  | some e =>
      rw [operations_of_fault fault, run_of_fault fault]
      rfl
  | none =>
      rw [run_of_unharmed fault, operations_of_unharmed fault, Machine.after_append]
      exact congrArg Machine.tick (Run.after_operations count (Run.start s.machine s.entropy))

theorem mem_operations {count : Nat} {operation : Operation}
    (mem : operation ∈ s.operations count) :
    operation = .clock ∨ ∃ byte, operation = .step byte := by
  rw [operations] at mem
  split at mem
  · cases mem
  · rcases List.mem_append.mp mem with inRun | last
    · exact .inr (Run.isStep_of_mem_operations inRun)
    · exact .inl (List.mem_singleton.mp last)

/-- A frame ticks once, unless there was a fault before it. -/
theorem count_clock_operations (s : Session) (count : Nat) :
    (s.operations count).count .clock = if s.fault = none then 1 else 0 := by
  cases fault : s.fault with
  | some e =>
      rw [operations_of_fault fault]
      rfl
  | none =>
      have noTick : .clock ∉ (Run.start s.machine s.entropy).operations count := by
        intro mem
        obtain ⟨byte, step⟩ := Run.isStep_of_mem_operations mem
        cases step
      rw [operations_of_unharmed fault, List.count_append, List.count_eq_zero.mpr noTick]
      rfl

/-- A frame executes what its steps execute without it, and leaves the same but for the timers. -/
theorem steps_run (s : Session) (count : Nat) :
    (s.steps count).families = s.machine.executed (s.operations count) ∧
      (s.steps count).state.SameButTimers (s.run count).state := by
  cases fault : s.fault with
  | some e =>
      have idle : s.fault.isSome ∨ ¬ s.machine.Ready := .inl (congrArg Option.isSome fault)
      rw [steps_of_idle idle, operations_of_fault fault, run_of_fault fault]
      exact ⟨rfl, .refl s⟩
  | none =>
      have steps := steps_upTo (Run.settled_start s.machine s.entropy) s count
      rw [upTo_start fault] at steps
      rw [steps, run_of_unharmed fault, operations_of_unharmed fault, Machine.executed_append]
      refine ⟨?_, rfl, Machine.sameButTimers_tick _⟩
      -- a tick executes nothing
      exact (List.append_nil _).symm

theorem after_allOperations (s : Session) (counts : List Nat) :
    s.machine.after (s.allOperations counts) = (s.runAll counts).machine := by
  induction counts generalizing s with
  | nil => rfl
  | cons count rest ih =>
      rw [allOperations, Machine.after_append, after_operations]
      exact ih _

/-- What frames execute, and the session they leave. -/
def frames (s : Session) (counts : List Nat) : Stretch :=
  ⟨s.machine.executed (s.allOperations counts), s.runAll counts⟩

theorem frames_cons (s : Session) (count : Nat) (rest : List Nat) :
    s.frames (count :: rest) =
      ((s.run count).state.frames rest).prepend (s.machine.executed (s.operations count)) := by
  rw [frames, allOperations, Machine.executed_append, after_operations]
  rfl

/-- Frames do what all their instructions do without frames. -/
theorem frames_alike (s : Session) (counts : List Nat) :
    (s.frames counts).Alike (s.steps counts.sum) := by
  induction counts generalizing s with
  | nil => exact .refl _
  | cons count rest ih =>
      obtain ⟨families, state⟩ := steps_run s count
      rw [frames_cons, List.sum_cons, steps_add, families]
      exact ((ih _).trans (steps_alike state.symm _)).prepend _

theorem runAll_of_fault (fault : s.fault = some e) (counts : List Nat) : s.runAll counts = s := by
  induction counts with
  | nil => rfl
  | cons count rest ih =>
      rw [runAll, List.foldl_cons, run_of_fault fault]
      exact ih

/-- **How instructions are cut into frames makes no difference.**  Take frames with any numbers of
instructions, zero included, with nothing in between and a given stream of random bytes.  If they
execute no `FX07`, then any other frames with as many instructions in all execute the same and leave
the same session but for the timers, with the same fault and the same status.

Each frame takes steps and ticks once, if there is no fault before it, and so also the one in which
a fault occurs; the frames after that do nothing at all. -/
theorem frames_may_be_cut_anywhere (s : Session) (counts : List Nat) :
    (∀ others : List Nat, others.sum = counts.sum →
      .setVxFromTimer ∉ s.machine.executed (s.allOperations counts) →
      (s.runAll counts).SameButTimers (s.runAll others) ∧
      (s.runAll others).fault = (s.runAll counts).fault ∧
      (s.runAll others).machine.status = (s.runAll counts).machine.status ∧
      s.machine.executed (s.allOperations others) = s.machine.executed (s.allOperations counts)) ∧
    s.machine.after (s.allOperations counts) = (s.runAll counts).machine ∧
    ∀ before count later, counts = before ++ count :: later →
      let t := s.runAll before
      t.machine.after (t.operations count) = (t.run count).state.machine ∧
      (∀ operation ∈ t.operations count, operation = .clock ∨ ∃ byte, operation = .step byte) ∧
      (t.operations count).count .clock = (if t.fault = none then 1 else 0) ∧
      ∀ e, t.fault = some e → s.runAll counts = t := by
  refine ⟨?_, after_allOperations s counts, ?_⟩
  · intro others sum untimed
    have here := s.frames_alike counts
    have there := s.frames_alike others
    rw [sum] at there
    obtain ⟨families, same⟩ := here.trans there.symm (.inl untimed)
    exact ⟨same, same.fault, same.machine.status, families.symm⟩
  · rintro before count later rfl t
    refine ⟨after_operations t count, fun _ => mem_operations, count_clock_operations t count, ?_⟩
    intro e fault
    rw [runAll, List.foldl_append]
    exact runAll_of_fault fault (count :: later)

/-- A program sets the delay timer to a random byte, here 200, and then returns without a call.  In
frames of two, zero, nine and four instructions this ends in the third frame, which ticks for the
last time; in one frame of fifteen instructions there is one tick only.  Nothing else differs. -/
theorem underflow_in_third_frame :
    let s := (Session.new ⟨fun _ => 200, 0⟩).act
      (.load [0xC0, 0xFF, 0xF0, 0x15, 0x70, 0x01, 0x00, 0xEE])
    let cut := s.runAll [2, 0, 9, 4]
    let whole := s.runAll [15]
    .setVxFromTimer ∉ s.machine.executed (s.allOperations [2, 0, 9, 4]) ∧
    cut.SameButTimers whole ∧ whole.fault = cut.fault ∧ cut.fault = some .stackUnderflow ∧
    cut.machine.delayTimer = 197 ∧ whole.machine.delayTimer = 199 ∧
    ((s.runAll [2, 0]).operations 9).count .clock = 1 ∧
    ((s.runAll [2, 0, 9]).operations 4).count .clock = 0 := by
  intro s cut whole
  obtain ⟨untimed, before, within, short, long⟩ :
      .setVxFromTimer ∉ s.machine.executed (s.allOperations [2, 0, 9, 4]) ∧
      (s.runAll [2, 0]).fault = none ∧
      (s.runAll [2, 0, 9]).fault = some .stackUnderflow ∧
      cut.machine.delayTimer = 197 ∧ whole.machine.delayTimer = 199 := by decide +kernel
  obtain ⟨anywhere, -, frame⟩ := frames_may_be_cut_anywhere s [2, 0, 9, 4]
  obtain ⟨same, fault, -, -⟩ := anywhere [15] rfl untimed
  obtain ⟨-, -, third, -⟩ := frame [2, 0] 9 [4] rfl
  obtain ⟨-, -, fourth, kept⟩ := frame [2, 0, 9] 4 [] rfl
  rw [before, if_pos rfl] at third
  rw [within, if_neg (Option.some_ne_none _)] at fourth
  have stopped : cut = s.runAll [2, 0, 9] := kept _ within
  exact ⟨untimed, same, fault, (congrArg Session.fault stopped).trans within, short,
    long, third, fourth⟩

end Session

end Chip8
