import Chip8.Proofs.Frames
import Chip8.Proofs.TraceLog

/-!
# The log of a session

The instructions of a frame report what their steps report, and if the last of them fails, one error
behind that.  It says where the program counter is, and since a step that fails leaves the machine
as it was, that is the place of the word that failed.  After a fault no instruction is tried again,
and nothing takes a fault back, so in the whole life of a session there is one such line at most.

## Main definitions

* `Session.frameLines` — the lines that the frames among a list of actions write

## Main statements

* `Run.log_advance` — a run reports what its steps report
* `errors_of_run` — the error that a frame reports
* `errors_of_frames` — those that all frames of a session report
* `log_tells_the_run` — the log of steps and of frames, and what can be read from it
-/

namespace Chip8

/-! ## Reports of runs -/

/-- A run reports what its steps report. -/
theorem Run.log_advance (limit : Nat) (r : Run) :
    (r.advance limit).log.toList = r.log.toList ++ r.machine.reports (r.operations limit) := by
  induction limit generalizing r with
  | zero => simp [operations, Machine.reports]
  | succ limit ih =>
      rw [operations_succ, advance_succ]
      split
      · rw [ih, Machine.reports]
        simp [step, Machine.apply]
      · simp [Machine.reports]

theorem Event.message_executionStopped (e : Error) (pc : UInt16) :
    (executionStopped e pc).message =
      "execution stopped error=" ++ (e.message ++ (" pc=" ++ toString pc.toNat)) := by
  rw [← String.append_assoc, ← String.append_assoc]
  rfl

theorem Event.line_executionStopped (e : Error) (pc : UInt16) : (executionStopped e pc).line =
    "ERROR execution stopped error=" ++ (e.message ++ (" pc=" ++ toString pc.toNat)) := by
  rw [line_of_message (message_executionStopped e pc)]
  rfl

/-- The errors that steps fail with are worded on one line. -/
theorem Machine.Faults.onOneLine {m : Machine} {e : Error} (faults : m.Faults e) (pc : UInt16) :
    (Event.executionStopped e pc).OnOneLine := by
  have memory (a : Nat) : '\n' ∉ (Error.memoryFault a).message.toList := by
    have wording : (Error.memoryFault a).message = "memory access out of bounds at address 0x" ++
        String.ofList (Numeral.hexAtLeast 4 a) := rfl
    have address : '\n' ∉ (String.ofList (Numeral.hexAtLeast 4 a)).toList := by
      rw [String.toList_ofList]
      exact Numeral.lineFeed_notMem_hex _ a
    rw [wording, String.toList_append, List.mem_append, not_or]
    exact ⟨by decide, address⟩
  have cause : '\n' ∉ e.message.toList := by
    cases faults with
    | fetch outside => exact memory _
    | word inside refused =>
        cases refused with
        | underflow word empty => decide
        | sprite word outside | digits word outside | block word outside => exact memory _
  refine Event.onOneLine_of_message (Event.message_executionStopped e pc) (by decide) ?_
  simp only [String.toList_append, List.mem_append, cause, Numeral.lineFeed_notMem_toString,
    or_false, false_or]
  decide

namespace Session

variable {s : Session} {e : Error}

/-! ## Reports of frames -/

/-- Without a fault a frame reports what its steps report, and then the error that ended them. -/
theorem log_run (unharmed : s.fault = none) (count : Nat) :
    (s.run count).log =
      s.machine.reports ((Run.start s.machine s.entropy).operations count) ++
        ((s.run count).state.fault.map fun e =>
          Event.executionStopped e (s.run count).state.machine.pc).toList := by
  have steps : (s.machine.run s.entropy count).log.toList =
      s.machine.reports ((Run.start s.machine s.entropy).operations count) :=
    (Run.log_advance count (Run.start s.machine s.entropy)).trans (List.nil_append _)
  have reply : (s.run count).log = (s.machine.run s.entropy count).log.toList ++
      faultReport (s.machine.run s.entropy count) := by
    rw [run, unharmed, Option.isSome_none, if_neg Bool.false_ne_true]
  have fault : (s.run count).state.fault = (s.machine.run s.entropy count).error? := by
    rw [run_of_unharmed unharmed]
  -- the tick at the end of the frame leaves the program counter where it is
  have pc : (s.run count).state.machine.pc = (s.machine.run s.entropy count).machine.pc := by
    rw [run_of_unharmed unharmed]
    rfl
  rw [reply, steps, fault, pc, faultReport]
  cases (s.machine.run s.entropy count).error? <;> rfl

/-- The error that a frame ends with is the one of the next step. -/
theorem fault_run (unharmed : s.fault = none) {count : Nat}
    (fault : (s.run count).state.fault = some e) :
    ∀ byte, ((s.run count).state.machine.step byte).result = .error e :=
  explained_run unharmed count e fault

/-- A frame makes no report with a line feed in it. -/
theorem onOneLine_of_mem_log_run {count : Nat} {event : Event}
    (mem : event ∈ (s.run count).log) : event.OnOneLine := by
  cases fault : s.fault with
  | some e =>
      rw [run_of_fault fault] at mem
      cases mem
  | none =>
      rw [log_run fault] at mem
      rcases List.mem_append.mp mem with inRun | last
      · exact Event.onOneLine_of_isOfStep
          (Machine.isOfStep_of_mem_reports (fun _ => Run.isStep_of_mem_operations) inRun)
      · obtain ⟨e, failed, rfl⟩ := Option.map_eq_some_iff.mp (Option.mem_toList.mp last)
        have faults := (Machine.step_eq_error_iff.mp (fault_run fault failed 0)).2
        exact faults.onOneLine _

/-- A frame reports an error exactly if it is the one that brings the fault about. -/
theorem errors_of_run (s : Session) (count : Nat) :
    (Event.written .trace (s.run count).log).filter Line.isError =
      if s.fault = none then
        ((s.run count).state.fault.map fun e => "ERROR execution stopped error=" ++
          (e.message ++ (" pc=" ++ toString (s.run count).state.machine.pc.toNat))).toList
      else [] := by
  have level : Line.isError ∘ Event.line = fun event => decide (event.level = .error) := by
    funext event
    simp only [Function.comp_apply, Line.isError, Event.level?_line, Option.some.injEq]
  rw [Event.written_eq_map fun event => onOneLine_of_mem_log_run, Event.shown_trace,
    List.filter_map, level]
  cases fault : s.fault with
  | some e =>
      rw [run_of_fault fault, if_neg (Option.some_ne_none e)]
      rfl
  | none =>
      have calm : (s.machine.reports ((Run.start s.machine s.entropy).operations count)).filter
          (fun event => decide (event.level = .error)) = [] := by
        refine List.filter_eq_nil_iff.mpr fun event mem => ?_
        have own := Machine.isOfStep_of_mem_reports (fun _ => Run.isStep_of_mem_operations) mem
        simpa using Event.level_ne_error_of_isOfStep own
      rw [log_run fault, List.filter_append, calm, List.nil_append, if_pos rfl]
      cases (s.run count).state.fault with
      | none => rfl
      | some e => exact congrArg (fun line => [line]) (Event.line_executionStopped e _)

/-! ## The life of a session -/

/-- The lines that a frame writes, and none for what is no frame. -/
def linesOf (s : Session) : Action → List String
  | .run count => Event.written .trace (s.run count).log
  | _ => []

/-- The lines that the frames among a list of actions write. -/
def frameLines (s : Session) : List Action → List String
  | [] => []
  | action :: rest => s.linesOf action ++ (s.act action).frameLines rest

/-- Nothing takes a fault back. -/
theorem fault_act_of_fault (fault : s.fault = some e) (action : Action) :
    (s.act action).fault = some e := by
  cases action with
  | key event => exact (fault_receive s event).trans fault
  | releaseStale => exact (frozen_releaseStale s).fault.trans fault
  | run count => rw [act, run_of_fault fault, fault]
  | load image | setMode mode | setFrame frame | setReportsReleases reportsReleases => exact fault

/-- Nothing but a frame brings a fault about. -/
theorem act_of_unharmed (unharmed : s.fault = none) (action : Action) :
    (s.act action).fault = none ∧ s.linesOf action = [] ∨ ∃ count, action = .run count := by
  cases action with
  | key event => exact .inl ⟨(fault_receive s event).trans unharmed, rfl⟩
  | releaseStale => exact .inl ⟨(frozen_releaseStale s).fault.trans unharmed, rfl⟩
  | run count => exact .inr ⟨count, rfl⟩
  | load image | setMode mode | setFrame frame | setReportsReleases reportsReleases =>
      exact .inl ⟨unharmed, rfl⟩

theorem fault_afterActions_of_fault (fault : s.fault = some e) (actions : List Action) :
    (s.afterActions actions).fault = some e := by
  induction actions generalizing s with
  | nil => exact fault
  | cons action rest ih => exact ih (fault_act_of_fault fault action)

/-- After a fault no frame writes anything. -/
theorem frameLines_of_fault (fault : s.fault = some e) (actions : List Action) :
    s.frameLines actions = [] := by
  induction actions generalizing s with
  | nil => rfl
  | cons action rest ih =>
      have silent : s.linesOf action = [] := by
        cases action with
        | run count =>
            rw [linesOf, run_of_fault fault]
            rfl
        | _ => rfl
      rw [frameLines, silent, ih (fault_act_of_fault fault action)]
      rfl

/-- The frames of a session report one error if there is a fault at the end and was none at the
beginning, and otherwise none. -/
theorem errors_of_frames (s : Session) (actions : List Action) :
    (s.frameLines actions).countP Line.isError =
      if s.fault = none ∧ (s.afterActions actions).fault ≠ none then 1 else 0 := by
  induction actions generalizing s with
  | nil => simp [frameLines, afterActions]
  | cons action rest ih =>
      cases fault : s.fault with
      | some e =>
          rw [frameLines_of_fault fault, if_neg fun both => Option.some_ne_none e both.1]
          rfl
      | none =>
          have after : s.afterActions (action :: rest) = (s.act action).afterActions rest := rfl
          rw [frameLines, List.countP_append, after]
          rcases act_of_unharmed fault action with ⟨unharmed, silent⟩ | ⟨count, rfl⟩
          · rw [silent, ih, unharmed]
            simp
          · have errors := errors_of_run s count
            rw [if_pos fault] at errors
            rw [linesOf, List.countP_eq_length_filter, errors]
            cases failed : (s.run count).state.fault with
            | none =>
                rw [ih, act, failed]
                simp
            | some e =>
                rw [act, frameLines_of_fault failed, fault_afterActions_of_fault failed]
                simp

/-! ## What the log tells -/

/-- **The log tells the run.**  Take the full log.

What a step writes is determined by what it does: nothing if the program had come to its end, if a
register waits for a key or if no word could be fetched, one line for the end of the program or for
a word of no family, and for any other word one line that announces it, whether it then fails or
not, with a second line for `0NNN` alone.

So in the log of any number of steps one can read, in order, the words that were fetched and were
not zero, and the lines that announce instructions are as many as the instructions that took effect
and those that failed.

A frame reports an error exactly if there was no fault before it and is one after it.  The line says
where the program counter is, and that is where the next step fails with the same error.  In the
life of a session, whatever is done to it, there is at most one such line.

A log that goes down to some level has the lines of the full log that are of this level or of a
graver one. -/
theorem log_tells_the_run :
    (∀ (m : Machine) (byte : UInt8), m.Told byte (Event.written .trace (m.step byte).log)) ∧
    (∀ (m : Machine) (bytes : List UInt8),
      let lines := Event.written .trace (m.reports (bytes.map .step))
      let record := m.history (bytes.map .step)
      lines.filterMap Line.word? = record.filterMap Moment.fetched? ∧
      lines.countP Line.isExecution =
        record.countP (fun moment => moment.executed.isSome) +
          record.countP Moment.failsAfterFetch) ∧
    (∀ (s : Session) (count : Nat),
      let after := (s.run count).state
      let errors := (Event.written .trace (s.run count).log).filter Line.isError
      (∀ e, s.fault = none → after.fault = some e →
        errors = ["ERROR execution stopped error=" ++ e.message ++
          " pc=" ++ toString after.machine.pc.toNat] ∧
        ∀ byte, (after.machine.step byte).result = .error e) ∧
      (s.fault ≠ none ∨ after.fault = none → errors = [])) ∧
    (∀ (s : Session) (actions : List Action),
      (s.frameLines actions).countP Line.isError ≤ 1) ∧
    ∀ (limit : Level),
      (∀ (m : Machine) (bytes : List UInt8),
        Event.written limit (m.reports (bytes.map .step)) =
          (Event.written .trace (m.reports (bytes.map .step))).filter (Line.isShown limit)) ∧
      ∀ (s : Session) (count : Nat),
        Event.written limit (s.run count).log =
          (Event.written .trace (s.run count).log).filter (Line.isShown limit) := by
  refine ⟨Machine.told_step, fun m bytes => ⟨m.words_of_lines bytes, m.executions_of_lines bytes⟩,
    fun s count => ⟨?_, ?_⟩, ?_, fun limit => ⟨?_, ?_⟩⟩
  · intro e unharmed fault
    have errors := errors_of_run s count
    rw [if_pos unharmed, fault] at errors
    rw [String.append_assoc, String.append_assoc]
    exact ⟨errors, fault_run unharmed fault⟩
  · intro quiet
    have errors := errors_of_run s count
    rcases quiet with harmed | unharmed
    · rwa [if_neg harmed] at errors
    · rw [unharmed] at errors
      exact errors.trans (ite_self _)
  · intro s actions
    rw [errors_of_frames]
    split <;> decide
  · exact fun m bytes =>
      Event.written_eq_filter (fun e => Machine.onOneLine_of_mem_reports) limit
  · exact fun s count => Event.written_eq_filter (fun event => onOneLine_of_mem_log_run) limit

/-- A program asks for a routine of the host, goes on over a word of no family, and returns without
a call.  Its first step writes two lines.  The log of its three steps names the three words, of
which two are announced, and a frame with five instructions stops at the third one. -/
theorem log_of_three_words :
    let image := [0x00, 0x01, 0x51, 0x21, 0x00, 0xEE]
    let s := (Session.new ⟨fun _ => 0, 0⟩).act (.load image)
    let lines := Event.written .trace (s.machine.reports ([0, 0, 0].map .step))
    Event.written .trace (s.machine.step 0).log =
      ["TRACE execute instruction=0001 opcode=MachineRoutine",
        "DEBUG machine code routine ignored address=1"] ∧
    lines.filterMap Line.word? = [0x0001, 0x5121, 0x00EE] ∧ lines.countP Line.isExecution = 2 ∧
    (Event.written .trace (s.run 5).log).filter Line.isError =
      ["ERROR execution stopped error=stack underflow: return from subroutine with an empty " ++
        "call stack pc=516"] := by
  intro image s lines
  obtain ⟨fetch, words, executed, failed, unharmed, fault, pc⟩ :
      s.machine.nextWord = .ok 0x0001 ∧
      (s.machine.history ([0, 0, 0].map .step)).filterMap Moment.fetched? =
        [0x0001, 0x5121, 0x00EE] ∧
      (s.machine.history ([0, 0, 0].map .step)).countP (fun moment => moment.executed.isSome) = 1 ∧
      (s.machine.history ([0, 0, 0].map .step)).countP Moment.failsAfterFetch = 1 ∧
      s.fault = none ∧ (s.run 5).state.fault = some .stackUnderflow ∧
      (s.run 5).state.machine.pc.toNat = 516 := by decide +kernel
  obtain ⟨told, steps, frames, -, -⟩ := log_tells_the_run
  obtain ⟨-, first⟩ := (told s.machine 0).known 0x0001 .machineRoutine ⟨rfl, rfl⟩ fetch (by decide)
    (by decide)
  obtain ⟨named, announced⟩ := steps s.machine [0, 0, 0]
  obtain ⟨errors, -⟩ := (frames s 5).1 .stackUnderflow unharmed fault
  rw [executed, failed] at announced
  rw [pc] at errors
  exact ⟨first.trans (by decide +kernel), named.trans words, announced, errors⟩

end Session

end Chip8
