import Chip8.Proofs.LogLines
import Chip8.Proofs.Outcomes

/-!
# The log of steps

A step that fetches nothing writes nothing.  A step that fetches the word zero says that the program
has come to its end, and a word of no family is reported as unknown.  Every other word is announced
before it is executed, so also if it then fails, and `0NNN` is followed by a second line that names
its address.

Since each word that is fetched makes exactly one line that names it, a log of steps tells which
words were fetched, and in which order.

## Main definitions

* `Machine.Told` — the lines of a step, by what the step does
* `Machine.reports` — what a list of operations reports
* `Machine.fetched?`, `Moment.fetched?`, `Moment.failsAfterFetch` — the word that a step fetches,
  and whether it fails
* `Line.word?`, `Line.isExecution` — the word that a line names, and whether it announces it

## Main statements

* `told_step` — the lines of one step
* `words_of_lines`, `executions_of_lines` — what can be read from the log of a run
-/

namespace Chip8

/-! ## The reports of steps -/

namespace Event

variable {e : Event} {label rest : String}

/-- Steps make reports of this kind. -/
def isOfStep : Event → Bool
  | .zeroWordFetched _ | .unknownWord .. | .executing .. | .routineIgnored _ => true
  | _ => false

theorem onOneLine_of_message (wording : e.message = label ++ rest) (first : '\n' ∉ label.toList)
    (second : '\n' ∉ rest.toList) : e.OnOneLine := by
  rw [OnOneLine, wording, String.toList_append, List.mem_append, not_or]
  exact ⟨first, second⟩

theorem line_of_message (wording : e.message = label ++ rest) :
    e.line = e.level.name ++ " " ++ label ++ rest := by
  rw [line, wording, ← String.append_assoc]

theorem message_unknownWord (w : Word) (pc : UInt16) : (unknownWord w pc).message =
    "unknown opcode, skipping instruction=" ++ (w.text ++ " pc=" ++ toString pc.toNat) := by
  rw [String.append_assoc, ← String.append_assoc, ← String.append_assoc]
  rfl

theorem message_executing (w : Word) (opcode : Opcode) : (executing w opcode).message =
    "execute instruction=" ++ (w.text ++ " opcode=" ++ opcode.name) := by
  rw [String.append_assoc, ← String.append_assoc, ← String.append_assoc]
  rfl

theorem line_zeroWordFetched (pc : UInt16) : (zeroWordFetched pc).line =
    "DEBUG zero instruction fetched, halting pc=" ++ toString pc.toNat := by
  have wording : (zeroWordFetched pc).message =
      "zero instruction fetched, halting pc=" ++ toString pc.toNat := rfl
  rw [line_of_message wording]
  rfl

theorem line_unknownWord (w : Word) (pc : UInt16) : (unknownWord w pc).line =
    "WARN unknown opcode, skipping instruction=" ++ (w.text ++ " pc=" ++ toString pc.toNat) := by
  rw [line_of_message (message_unknownWord w pc)]
  rfl

theorem line_executing (w : Word) (opcode : Opcode) : (executing w opcode).line =
    "TRACE execute instruction=" ++ (w.text ++ " opcode=" ++ opcode.name) := by
  rw [line_of_message (message_executing w opcode)]
  rfl

theorem line_routineIgnored (nnn : UInt16) : (routineIgnored nnn).line =
    "DEBUG machine code routine ignored address=" ++ toString nnn.toNat := by
  have wording : (routineIgnored nnn).message =
      "machine code routine ignored address=" ++ toString nnn.toNat := rfl
  rw [line_of_message wording]
  rfl

theorem onOneLine_of_isOfStep (own : e.isOfStep = true) : e.OnOneLine := by
  have number (n : Nat) : '\n' ∉ (toString n).toList := Numeral.lineFeed_notMem_toString n
  have text (w : Word) : '\n' ∉ w.text.toList := by
    rw [Word.text, String.toList_ofList]
    exact Numeral.lineFeed_notMem_hex 4 w.toNat
  cases e with
  | zeroWordFetched pc => exact onOneLine_of_message rfl (by decide) (number _)
  | routineIgnored nnn => exact onOneLine_of_message rfl (by decide) (number _)
  | unknownWord w pc =>
      refine onOneLine_of_message (message_unknownWord w pc) (by decide) ?_
      simp only [String.toList_append, List.mem_append, number, text, or_false, false_or]
      decide
  | executing w opcode =>
      have name : '\n' ∉ opcode.name.toList := by
        cases opcode <;> decide
      refine onOneLine_of_message (message_executing w opcode) (by decide) ?_
      simp only [String.toList_append, List.mem_append, name, text, or_false, false_or]
      decide
  | _ => cases own

/-- The level of a report of a step is not that of an error. -/
theorem level_ne_error_of_isOfStep (own : e.isOfStep = true) : e.level ≠ .error := by
  cases e with
  | zeroWordFetched | unknownWord | executing | routineIgnored => exact nofun
  | _ => cases own

/-- The word that a report of a step names. -/
def word? : Event → Option Word
  | .unknownWord w _ | .executing w _ => some w
  | _ => none

/-- The report announces an instruction. -/
def isExecution : Event → Bool
  | .executing .. => true
  | _ => false

end Event

/-! ## Reading lines -/

namespace Line

/-- The word that the line names. -/
def word? (line : String) : Option Word :=
  ((after? "TRACE execute instruction=" line).or
    (after? "WARN unknown opcode, skipping instruction=" line)).bind fun rest =>
      (Numeral.hexadecimal? (rest.take 4)).map UInt16.ofNat

/-- The line announces an instruction. -/
def isExecution (line : String) : Bool :=
  (after? "TRACE execute instruction=" line).isSome

/-- The text of a word is read back, whatever follows it. -/
theorem hexadecimal?_text (w : Word) (rest : String) :
    (Numeral.hexadecimal? ((w.text ++ rest).toList.take 4)).map UInt16.ofNat = some w := by
  have text : (w.text ++ rest).toList = Numeral.hex 4 w.toNat ++ rest.toList := by
    rw [String.toList_append, Word.text, String.toList_ofList]
  have fits : w.toNat >>> (4 * 4) = 0 := by
    rw [Nat.shiftRight_eq_div_pow]
    exact Nat.div_eq_of_lt w.toNat_lt
  rw [text, List.take_left' (Numeral.length_hex 4 w.toNat), Numeral.hexadecimal?_hex fits,
    Option.map_some, UInt16.ofNat_toNat]

variable {e : Event}

/-- The line of a report names the word that the report names. -/
theorem word?_line (own : e.isOfStep = true) : word? e.line = e.word? := by
  cases e with
  | executing w opcode =>
      rw [Event.line_executing, word?, after?_append, Option.some_or, Option.bind_some,
        String.append_assoc, hexadecimal?_text]
      rfl
  | unknownWord w pc =>
      have other (rest : String) : after? "TRACE execute instruction="
          ("WARN unknown opcode, skipping instruction=" ++ rest) = none := by
        rw [after?, String.toList_append]
        rfl
      rw [Event.line_unknownWord, word?, other, after?_append, Option.none_or, Option.bind_some,
        String.append_assoc, hexadecimal?_text]
      rfl
  | zeroWordFetched pc =>
      rw [Event.line_zeroWordFetched, word?, after?, after?, String.toList_append]
      rfl
  | routineIgnored nnn =>
      rw [Event.line_routineIgnored, word?, after?, after?, String.toList_append]
      rfl
  | _ => cases own

theorem isExecution_line (own : e.isOfStep = true) : isExecution e.line = e.isExecution := by
  cases e with
  | executing w opcode =>
      rw [Event.line_executing, isExecution, after?_append]
      rfl
  | unknownWord w pc =>
      rw [Event.line_unknownWord, isExecution, after?, String.toList_append]
      rfl
  | zeroWordFetched pc =>
      rw [Event.line_zeroWordFetched, isExecution, after?, String.toList_append]
      rfl
  | routineIgnored nnn =>
      rw [Event.line_routineIgnored, isExecution, after?, String.toList_append]
      rfl
  | _ => cases own

end Line

namespace Machine

variable {m : Machine} {byte : UInt8}

/-! ## The lines of one step -/

/-- The lines of a step of `m` with the random byte `byte`, by what the step does. -/
structure Told (m : Machine) (byte : UInt8) (lines : List String) : Prop where
  /-- The program had come to its end before. -/
  halted : m.halted = true → (m.step byte).result = .ok .halted ∧ lines = []
  /-- A register waits for a key. -/
  waiting : ∀ target, m.halted = false → m.awaiting = some target →
    (m.step byte).result = .ok (.awaitingKey target) ∧ lines = []
  /-- There is no word at the program counter. -/
  unfetched : ∀ e, m.Ready → m.nextWord = .error e → (m.step byte).result = .error e ∧ lines = []
  /-- The word is zero. -/
  ended : m.Ready → m.nextWord = .ok 0 → (m.step byte).result = .ok .halted ∧
    lines = ["DEBUG zero instruction fetched, halting pc=" ++ toString m.pc.toNat]
  /-- The word belongs to no family. -/
  unknown : ∀ w, m.Ready → m.nextWord = .ok w → w ≠ 0 → Opcode.decode w = none →
    (m.step byte).result = .ok (.unknownWord w) ∧
    lines = ["WARN unknown opcode, skipping instruction=" ++ w.text ++
      " pc=" ++ toString (m.pc.toNat + 2)]
  /-- The word belongs to a family, and its instruction takes effect or fails. -/
  known : ∀ w opcode, m.Ready → m.nextWord = .ok w → w ≠ 0 → Opcode.decode w = some opcode →
    ((m.step byte).result = .ok (.executed opcode) ∨ ∃ e, (m.step byte).result = .error e) ∧
    lines = ("TRACE execute instruction=" ++ w.text ++ " opcode=" ++ opcode.name) ::
      if opcode = .machineRoutine then
        ["DEBUG machine code routine ignored address=" ++ toString w.nnn.toNat]
      else []

theorem isOfStep_of_mem_announcement {opcode : Opcode} {w : Word} {e : Event}
    (mem : e ∈ announcement opcode w) : e.isOfStep = true := by
  rw [announcement] at mem
  rcases List.mem_cons.mp mem with rfl | second
  · rfl
  · split at second
    · rw [List.mem_singleton.mp second]
      rfl
    · cases second

/-- Everything that a step reports is of the four kinds. -/
theorem isOfStep_of_mem_log {e : Event} (mem : e ∈ (m.step byte).log) : e.isOfStep = true := by
  cases m.cycle byte with
  | halted before reply | waiting target running awaited reply | unfetched e ready fetch reply =>
      rw [reply] at mem
      cases mem
  | ended ready fetch reply | unknown w ready fetch nonzero family reply =>
      rw [reply] at mem
      rw [List.mem_singleton.mp mem]
      rfl
  | executed w opcode next ready fetch nonzero family effect reply
  | refused w opcode e left ready fetch nonzero family effect reply =>
      rw [reply] at mem
      exact isOfStep_of_mem_announcement mem

theorem written_announcement (opcode : Opcode) (w : Word) :
    Event.written .trace (announcement opcode w) =
      ("TRACE execute instruction=" ++ w.text ++ " opcode=" ++ opcode.name) ::
        if opcode = .machineRoutine then
          ["DEBUG machine code routine ignored address=" ++ toString w.nnn.toNat]
        else [] := by
  have single : ∀ e ∈ announcement opcode w, e.OnOneLine :=
    fun e mem => Event.onOneLine_of_isOfStep (isOfStep_of_mem_announcement mem)
  rw [Event.written_eq_map single, Event.shown_trace, announcement, List.map_cons,
    Event.line_executing, String.append_assoc, String.append_assoc, String.append_assoc]
  split
  · rw [List.map_singleton, Event.line_routineIgnored]
  · rfl

theorem written_of_isOfStep {e : Event} (own : e.isOfStep = true) :
    Event.written .trace [e] = [e.line] := by
  rw [Event.written_eq_map (by simpa using Event.onOneLine_of_isOfStep own), Event.shown_trace,
    List.map_singleton]

/-- A step writes its lines, and no others. -/
theorem told_step (m : Machine) (byte : UInt8) :
    m.Told byte (Event.written .trace (m.step byte).log) where
  halted before := by
    rw [step_of_halted before]
    exact ⟨rfl, rfl⟩
  waiting target running awaited := by
    rw [step_of_awaiting running awaited]
    exact ⟨rfl, rfl⟩
  unfetched e ready fetch := by
    rw [step_of_nextWord_error ready.running ready.free fetch]
    exact ⟨rfl, rfl⟩
  ended ready fetch := by
    rw [step_of_nextWord_zero ready.running ready.free fetch, written_of_isOfStep rfl,
      Event.line_zeroWordFetched]
    exact ⟨rfl, rfl⟩
  unknown w ready fetch nonzero family := by
    -- the word was inside the memory, so the program counter does not wrap
    have inside : m.pc.toNat ≤ 0x1100 := by
      have := (nextWord_eq_ok_iff.mp fetch).1
      omega
    rw [step_of_unknown ready fetch nonzero family, written_of_isOfStep rfl,
      Event.line_unknownWord, toNat_add_two inside, String.append_assoc, String.append_assoc]
    exact ⟨rfl, rfl⟩
  known w opcode ready fetch nonzero family := by
    cases refused : m.refusal opcode w with
    | none =>
        rw [step_of_accepted ready fetch nonzero family refused]
        exact ⟨.inl rfl, written_announcement opcode w⟩
    | some e =>
        rw [step_of_refused ready fetch nonzero family refused]
        exact ⟨.inr ⟨e, rfl⟩, written_announcement opcode w⟩

/-! ## The words of a run -/

/-- What a list of operations reports. -/
def reports (m : Machine) : List Operation → List Event
  | [] => []
  | operation :: rest => (m.apply operation).log ++ (m.apply operation).state.reports rest

/-- The word that the next step executes or passes over, if it fetches one that is not zero. -/
def fetched? (m : Machine) : Option Word :=
  if m.halted || m.awaiting.isSome then none
  else
    match m.nextWord with
    | .ok w => if w = 0 then none else some w
    | .error _ => none

theorem fetched?_eq_some {w : Word} (ready : m.Ready) (fetch : m.nextWord = .ok w)
    (nonzero : w ≠ 0) : m.fetched? = some w := by
  simp [fetched?, ready.running, ready.free, fetch, nonzero]

end Machine

namespace Moment

/-- The word that a step fetches, if it fetches one that is not zero. -/
def fetched? (moment : Moment) : Option Word :=
  match moment.operation with
  | .step _ => moment.before.fetched?
  | _ => none

/-- A step fetches a word that is not zero and then fails. -/
def failsAfterFetch (moment : Moment) : Bool :=
  match moment.result with
  | some (.error _) => moment.fetched?.isSome
  | _ => false

end Moment

namespace Machine

variable {m : Machine} {byte : UInt8}

theorem words_of_announcement (opcode : Opcode) (w : Word) :
    (announcement opcode w).filterMap Event.word? = [w] := by
  rw [announcement]
  split <;> rfl

theorem executions_of_announcement (opcode : Opcode) (w : Word) :
    (announcement opcode w).countP Event.isExecution = 1 := by
  rw [announcement]
  split <;> rfl

/-- A step names the word that it fetches. -/
theorem words_of_step (m : Machine) (byte : UInt8) :
    (m.step byte).log.filterMap Event.word? = m.fetched?.toList := by
  cases m.cycle byte with
  | halted before reply => simp [reply, fetched?, before]
  | waiting target running awaited reply => simp [reply, fetched?, awaited]
  | unfetched e ready fetch reply => simp [reply, fetched?, fetch]
  | ended ready fetch reply => simp [reply, fetched?, fetch, Event.word?]
  | unknown w ready fetch nonzero family reply =>
      rw [reply, fetched?_eq_some ready fetch nonzero]
      rfl
  | executed w opcode next ready fetch nonzero family effect reply
  | refused w opcode e left ready fetch nonzero family effect reply =>
      rw [reply, fetched?_eq_some ready fetch nonzero]
      exact words_of_announcement opcode w

/-- A step announces an instruction if it executes one, or if it fails after it has fetched. -/
theorem executions_of_step (m : Machine) (byte : UInt8) :
    (m.step byte).log.countP Event.isExecution =
      (if (m.moment (.step byte)).executed.isSome then 1 else 0) +
        if (m.moment (.step byte)).failsAfterFetch then 1 else 0 := by
  cases m.cycle byte with
  | halted before reply | waiting target running awaited reply | ended ready fetch reply
  | unknown w ready fetch nonzero family reply =>
      simp [moment, apply, Moment.executed, Moment.failsAfterFetch, reply, Event.isExecution]
  | unfetched e ready fetch reply =>
      have none : m.fetched? = none := by simp [fetched?, fetch]
      simp [moment, apply, Moment.executed, Moment.failsAfterFetch, Moment.fetched?, reply, none]
  | executed w opcode next ready fetch nonzero family effect reply =>
      simp [moment, apply, Moment.executed, Moment.failsAfterFetch, reply,
        executions_of_announcement]
  | refused w opcode e left ready fetch nonzero family effect reply =>
      have some := fetched?_eq_some ready fetch nonzero
      simp [moment, apply, Moment.executed, Moment.failsAfterFetch, Moment.fetched?, reply, some,
        executions_of_announcement]

/-- The words that a run of steps fetches, in order, are those its reports name. -/
theorem words_of_reports (m : Machine) (bytes : List UInt8) :
    (m.reports (bytes.map .step)).filterMap Event.word? =
      (m.history (bytes.map .step)).filterMap Moment.fetched? := by
  induction bytes generalizing m with
  | nil => rfl
  | cons byte rest ih =>
      have first : (m.apply (.step byte)).log.filterMap Event.word? =
          (m.moment (.step byte)).fetched?.toList := words_of_step m byte
      rw [List.map_cons, reports, history, List.filterMap_append, first, ih, List.filterMap_cons]
      cases (m.moment (.step byte)).fetched? <;> rfl

/-- A run of steps announces as many instructions as it executes, and those that fail. -/
theorem executions_of_reports (m : Machine) (bytes : List UInt8) :
    (m.reports (bytes.map .step)).countP Event.isExecution =
      (m.history (bytes.map .step)).countP (fun moment => moment.executed.isSome) +
        (m.history (bytes.map .step)).countP Moment.failsAfterFetch := by
  induction bytes generalizing m with
  | nil => rfl
  | cons byte rest ih =>
      have first := executions_of_step m byte
      have log : (m.apply (.step byte)).log = (m.step byte).log := rfl
      rw [List.map_cons, reports, history, List.countP_append, log, first, ih, List.countP_cons,
        List.countP_cons]
      omega

/-! ## The lines of a run -/

/-- Everything that steps report is of the four kinds. -/
theorem isOfStep_of_mem_reports {operations : List Operation}
    (steps : ∀ operation ∈ operations, ∃ byte, operation = .step byte) {e : Event}
    (mem : e ∈ m.reports operations) : e.isOfStep = true := by
  induction operations generalizing m with
  | nil => cases mem
  | cons operation rest ih =>
      obtain ⟨⟨byte, rfl⟩, later⟩ := List.forall_mem_cons.mp steps
      rw [reports] at mem
      rcases List.mem_append.mp mem with first | others
      · exact isOfStep_of_mem_log first
      · exact ih later others

theorem isStep_of_mem_map {bytes : List UInt8} {operation : Operation}
    (mem : operation ∈ bytes.map .step) : ∃ byte, operation = .step byte := by
  obtain ⟨byte, -, rfl⟩ := List.mem_map.mp mem
  exact ⟨byte, rfl⟩

/-- Nothing that steps report has a line feed in it. -/
theorem onOneLine_of_mem_reports {bytes : List UInt8} {e : Event}
    (mem : e ∈ m.reports (bytes.map .step)) : e.OnOneLine :=
  Event.onOneLine_of_isOfStep (isOfStep_of_mem_reports (fun _ => isStep_of_mem_map) mem)

theorem written_reports (m : Machine) (bytes : List UInt8) :
    Event.written .trace (m.reports (bytes.map .step)) =
      (m.reports (bytes.map .step)).map Event.line := by
  rw [Event.written_eq_map fun e => onOneLine_of_mem_reports, Event.shown_trace]

/-- The words that a run of steps fetches, in order, can be read back from its log. -/
theorem words_of_lines (m : Machine) (bytes : List UInt8) :
    (Event.written .trace (m.reports (bytes.map .step))).filterMap Line.word? =
      (m.history (bytes.map .step)).filterMap Moment.fetched? := by
  rw [written_reports, List.filterMap_map, ← words_of_reports]
  refine List.filterMap_congr fun e mem => ?_
  exact Line.word?_line (isOfStep_of_mem_reports (fun _ => isStep_of_mem_map) mem)

/-- The lines that announce instructions, as many as are executed or fail. -/
theorem executions_of_lines (m : Machine) (bytes : List UInt8) :
    (Event.written .trace (m.reports (bytes.map .step))).countP Line.isExecution =
      (m.history (bytes.map .step)).countP (fun moment => moment.executed.isSome) +
        (m.history (bytes.map .step)).countP Moment.failsAfterFetch := by
  rw [written_reports, List.countP_map, ← executions_of_reports]
  refine List.countP_congr fun e mem => ?_
  rw [Function.comp_apply,
    Line.isExecution_line (isOfStep_of_mem_reports (fun _ => isStep_of_mem_map) mem)]

end Machine

end Chip8
