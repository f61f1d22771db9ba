import Chip8.Proofs.Keys
import Chip8.Proofs.Outcomes
import Chip8.Proofs.Restart

/-!
# Straight-line programs

A word is *straight* if the step that fetches it does no more to the flow of the program than to
move past it: it is not zero, and if it belongs to a family, this is one that leaves the memory and
the program counter alone, cannot fail and begins no wait.  A program of straight words is gone
through word for word, whatever its registers, timers and keys do.

Behind its last word the memory is empty, so the program comes to its end there.  Only a program
that fills the whole memory has no word behind it at all, and then the fetch fails.

`OnCourse` is what carries the induction: after `i` steps the program counter stands at word `i`,
and nothing keeps the next step from being taken.  Ticks and keys do not interfere.

## Main definitions

* `Word.bytes`, `Memory.image` — the words of a program as bytes, the upper one first
* `Word.IsStraight`, `Word.PassedWith` — the words in question, and what a step gives back for them
* `Machine.OnCourse` — where a straight program stands after some of its words

## Main statements

* `step_of_isStraight` — a straight word keeps the program on its course
* `onCourse_after` — so do any number of them, with ticks and keys in between
* `straight_program_runs_word_for_word` — the outcome of every step, the one behind the last word
  included
-/

namespace Chip8

/-! ## Words in memory -/

namespace Word

/-- The bytes of a word in the order in which they stand in memory, the more significant one
first. -/
def bytes (w : Word) : List UInt8 :=
  [UInt8.ofNat (w.toNat / 256), UInt8.ofNat (w.toNat % 256)]

theorem bytes_eq (w : Word) : w.bytes = [w.upper, w.lower] := by
  rw [bytes, ← toNat_upper, ← toNat_lower, UInt8.ofNat_toNat, UInt8.ofNat_toNat]

theorem ofBytes_upper_lower (w : Word) : ofBytes w.upper w.lower = w := by
  apply UInt16.toNat_inj.mp
  rw [toNat_ofBytes, toNat_upper, toNat_lower]
  exact Nat.div_add_mod' w.toNat 256

end Word

namespace Memory

/-- The image of a program of the given words. -/
def image (words : List Word) : List UInt8 :=
  words.flatMap Word.bytes

theorem image_cons (w : Word) (rest : List Word) :
    image (w :: rest) = w.upper :: w.lower :: image rest := by
  rw [image, List.flatMap_cons, Word.bytes_eq]
  rfl

theorem length_image (words : List Word) : (image words).length = 2 * words.length := by
  induction words with
  | nil => rfl
  | cons w rest ih =>
      rw [image_cons, List.length_cons, List.length_cons, List.length_cons, ih]
      rfl

theorem getElem?_image {words : List Word} {i : Nat} {w : Word} (here : words[i]? = some w) :
    (image words)[2 * i]? = some w.upper ∧ (image words)[2 * i + 1]? = some w.lower := by
  induction words generalizing i with
  | nil => cases here
  | cons first rest ih =>
      cases i with
      | zero =>
          cases here
          rw [image_cons]
          exact ⟨rfl, rfl⟩
      | succ i =>
          rw [image_cons]
          exact ih here

end Memory

/-! ## Straight words -/

/-- The families `00E0`, `0NNN`, `6XNN`, `7XNN`, `8XY0` to `8XY7`, `8XYE`, `ANNN`, `CXNN`, `FX07`,
`FX15`, `FX18`, `FX1E` and `FX29`. -/
def Opcode.isStraight : Opcode → Bool
  | .clearScreen | .machineRoutine | .setImmediate | .add | .setXToY | .binaryOr | .binaryAnd
  | .logicalXor | .binaryAdd | .subtractYFromX | .rightShift | .subtractXFromY | .leftShift
  | .setIndex | .random | .setVxFromTimer | .setDelayTimer | .setSoundTimer | .addToIndex
  | .fontChar => true
  | _ => false

/-- The word is not zero, and one of these families includes it, or no family at all does. -/
def Word.IsStraight (w : Word) : Prop :=
  w ≠ 0 ∧ ((∃ opcode : Opcode, opcode.isStraight = true ∧ opcode.Includes w) ∨
    ∀ opcode : Opcode, ¬ opcode.Includes w)

/-- What a step gives back that goes on past the word: the family that includes it, or the word
itself if none does. -/
structure Word.PassedWith (w : Word) (result : Except Error Outcome) : Prop where
  executed : ∀ opcode : Opcode, opcode.Includes w → result = .ok (.executed opcode)
  unknown : (∀ opcode : Opcode, ¬ opcode.Includes w) → result = .ok (.unknownWord w)

namespace Operation

/-- A cycle, a tick of the timers, or a key that goes down or up. -/
def isPlay : Operation → Bool
  | .step _ | .clock | .keyDown _ | .keyUp _ => true
  | _ => false

end Operation

namespace Machine

variable {m : Machine} {memory : Memory} {words : List Word} {w : Word} {i : Nat}

/-- A straight program that fits is in the memory. -/
structure HoldsStraight (memory : Memory) (words : List Word) : Prop where
  holds : memory.Holds (Memory.image words)
  fits : words.length ≤ 1792
  straight : ∀ w ∈ words, w.IsStraight

/-- The machine goes on at word `i` of the program in the memory. -/
structure OnCourse (memory : Memory) (i : Nat) (m : Machine) : Prop where
  ready : m.Ready
  memory : m.memory = memory
  pc : m.pc.toNat = 512 + 2 * i

theorem onCourse_load (m : Machine) (image : List UInt8) :
    OnCourse (m.load image).state.memory 0 (m.load image).state where
  ready := ⟨rfl, rfl⟩
  memory := rfl
  pc := rfl

/-! ## Fetching -/

theorem OnCourse.wordAhead (onCourse : OnCourse memory i m) :
    m.wordAhead = .ofBytes (memory.byte (512 + 2 * i)) (memory.byte (512 + (2 * i + 1))) := by
  rw [Machine.wordAhead, onCourse.memory, onCourse.pc, Nat.add_assoc]

theorem OnCourse.nextWord_of_lt (onCourse : OnCourse memory i m) (inside : i < 1792) :
    m.nextWord = .ok m.wordAhead := by
  have pc := onCourse.pc
  exact Machine.nextWord_of_lt (by omega)

/-- The next word is that of the program. -/
theorem HoldsStraight.nextWord (program : HoldsStraight memory words)
    (onCourse : OnCourse memory i m) (here : words[i]? = some w) : m.nextWord = .ok w := by
  have before : i < words.length := (List.getElem?_eq_some_iff.mp here).1
  have fits := program.fits
  have length := Memory.length_image words
  obtain ⟨upper, lower⟩ := Memory.getElem?_image here
  have first := program.holds.program (2 * i) (by omega)
  have second := program.holds.program (2 * i + 1) (by omega)
  rw [upper, Option.some.injEq] at first
  rw [lower, Option.some.injEq] at second
  rw [onCourse.nextWord_of_lt (by omega), onCourse.wordAhead, first, second, Word.ofBytes_upper_lower]

/-- Behind the last word there is a zero word, if there is room for it. -/
theorem HoldsStraight.nextWord_behind (program : HoldsStraight memory words)
    (onCourse : OnCourse memory words.length m) (room : words.length < 1792) :
    m.nextWord = .ok 0 := by
  have length := Memory.length_image words
  have first := program.holds.rest (512 + 2 * words.length) (by omega) (by omega)
  have second := program.holds.rest (512 + (2 * words.length + 1)) (by omega) (by omega)
  rw [onCourse.nextWord_of_lt room, onCourse.wordAhead, first, second]
  rfl

/-! ## Steps and other operations -/

theorem refusal_of_isStraight {opcode : Opcode} (straight : opcode.isStraight = true) (m : Machine)
    (w : Word) : m.refusal opcode w = none := by
  cases opcode with
  | subroutineReturn | draw | binaryCodedDecimal | store | load => cases straight
  | _ => rfl

/-- An instruction of a straight family leaves the memory and the program counter alone, and lets
the machine go on. -/
theorem performed_of_isStraight {opcode : Opcode} (straight : opcode.isStraight = true)
    (ready : m.Ready) (w : Word) (byte : UInt8) :
    (m.performed opcode w byte).Ready ∧ (m.performed opcode w byte).memory = m.memory ∧
      (m.performed opcode w byte).pc = m.pc := by
  cases opcode with
  | subroutineReturn | jump | subroutineCall | skipEqX | skipNeqX | skipXEqY | skipXNeqY
  | jumpWithOffset | draw | skipIfKeyPressed | skipIfKeyNotPressed | getKey | binaryCodedDecimal
  | store | load => cases straight
  | _ => exact ⟨⟨ready.running, ready.free⟩, rfl, rfl⟩

theorem OnCourse.toNat_pc_add_two (onCourse : OnCourse memory i m) (inside : i < 1792) :
    (m.pc + 2).toNat = 512 + 2 * (i + 1) := by
  have pc := onCourse.pc
  rw [toNat_add_two (by omega), pc]
  omega

/-- A straight word keeps the program on its course. -/
theorem step_of_isStraight (onCourse : OnCourse memory i m) (inside : i < 1792)
    (fetch : m.nextWord = .ok w) (straight : w.IsStraight) (byte : UInt8) :
    w.PassedWith (m.step byte).result ∧ OnCourse memory (i + 1) (m.step byte).state := by
  obtain ⟨nonzero, families⟩ := straight
  have ready := onCourse.ready
  have moved : ({ m with pc := m.pc + 2 } : Machine).Ready := ⟨ready.running, ready.free⟩
  rcases families with ⟨opcode, own, includes⟩ | none
  · have family := (Opcode.decode_iff_includes opcode w).mpr includes
    obtain ⟨goesOn, memory, pc⟩ := performed_of_isStraight own moved w byte
    rw [step_of_accepted ready fetch nonzero family (refusal_of_isStraight own m w)]
    refine ⟨⟨?_, fun none => absurd includes (none opcode)⟩, goesOn,
      memory.trans onCourse.memory, ?_⟩
    · intro other also
      have same := family.symm.trans ((Opcode.decode_iff_includes other w).mpr also)
      rw [Option.some.inj same]
    · rw [pc]
      exact onCourse.toNat_pc_add_two inside
  · have family := (Opcode.decode_eq_none_iff_not_includes w).mpr none
    rw [step_of_unknown ready fetch nonzero family]
    exact ⟨⟨fun opcode includes => absurd includes (none opcode), fun _ => rfl⟩, moved,
      onCourse.memory, onCourse.toNat_pc_add_two inside⟩

/-- Ticks and keys do not interfere. -/
theorem OnCourse.apply (onCourse : OnCourse memory i m) {operation : Operation}
    (play : operation.isPlay = true) (other : operation.isStep = false) :
    OnCourse memory i (m.apply operation).state := by
  have ready := onCourse.ready
  cases operation with
  | step byte => cases other
  | keyDown k =>
      have pressed : (m.apply (.keyDown k)).state = { m with keypad := (m.keypad.press k).2 } :=
        keyDown_of_awaiting_eq_none ready.free k
      rw [pressed]
      exact ⟨⟨ready.running, rfl⟩, onCourse.memory, onCourse.pc⟩
  | clock | keyUp k => exact ⟨⟨ready.running, ready.free⟩, onCourse.memory, onCourse.pc⟩
  | execute w byte | setRegister r value | setMode mode | reset clearMemory | load image
  | poke a bytes => cases play

/-- As many words are gone through as steps are taken. -/
theorem onCourse_after (program : HoldsStraight memory words) {operations : List Operation}
    (onCourse : OnCourse memory i m) (play : ∀ operation ∈ operations, operation.isPlay = true)
    (reaches : i + operations.countP Operation.isStep ≤ words.length) :
    OnCourse memory (i + operations.countP Operation.isStep) (m.after operations) := by
  induction operations generalizing i m with
  | nil => exact onCourse
  | cons operation rest ih =>
      have later (other : Operation) (mem : other ∈ rest) : other.isPlay = true :=
        play other (List.mem_cons_of_mem _ mem)
      rw [List.countP_cons] at reaches ⊢
      cases step : operation.isStep with
      | false =>
          rw [step, if_neg Bool.false_ne_true, Nat.add_zero] at reaches
          rw [if_neg Bool.false_ne_true, Nat.add_zero]
          exact ih (onCourse.apply (play _ List.mem_cons_self) step) later reaches
      | true =>
          rw [step, if_pos rfl, Nat.add_comm _ 1, ← Nat.add_assoc] at reaches
          rw [if_pos rfl, Nat.add_comm _ 1, ← Nat.add_assoc]
          cases operation with
          | step byte =>
              -- there is a word left, since no more steps are taken than there are words
              have before : i < words.length := by omega
              have fits := program.fits
              have here := List.getElem?_eq_getElem before
              have fetch := program.nextWord onCourse here
              have straight := program.straight _ (List.mem_of_getElem? here)
              have next := (step_of_isStraight onCourse (by omega) fetch straight byte).2
              exact ih next later reaches
          | _ => cases step

/-- **Straight programs run word for word.**  Load any program of at most 1792 straight words, and
let any steps, ticks and keys follow.  A step with `i` steps before it fetches word `i` of the
program: it gives back the family that includes the word, or the word itself if no family does, and
leaves the program counter at the next word and the memory as it was loaded.  Behind the last word
the machine comes to its end and the program counter stays there, but if the program fills the
memory, the step fails. -/
theorem straight_program_runs_word_for_word (m : Machine) (words : List Word)
    (fits : words.length ≤ 1792) (straight : ∀ w ∈ words, w.IsStraight)
    (before : List Operation) (play : ∀ operation ∈ before, operation.isPlay = true)
    (byte : UInt8) :
    let loaded := (m.load (Memory.image words)).state
    let i := before.countP Operation.isStep
    let reply := (loaded.after before).step byte
    loaded.memory.Holds (Memory.image words) ∧
    (∀ w, words[i]? = some w →
      w.PassedWith reply.result ∧ reply.state.pc.toNat = 512 + 2 * (i + 1) ∧
      reply.state.memory = loaded.memory) ∧
    (i = words.length → words.length < 1792 →
      reply.result = .ok .halted ∧ reply.state.pc.toNat = 512 + 2 * words.length) ∧
    (i = words.length → words.length = 1792 → reply.result = .error (.memoryFault 4096)) := by
  intro loaded i reply
  have holds : loaded.memory.Holds (Memory.image words) := holds_load m _
  have program : HoldsStraight loaded.memory words := ⟨holds, fits, straight⟩
  have course (reaches : i ≤ words.length) : OnCourse loaded.memory i (loaded.after before) := by
    have onCourse := onCourse_after program (onCourse_load m _) play
      (by rwa [Nat.zero_add])
    rwa [Nat.zero_add] at onCourse
  refine ⟨holds, ?_, ?_, ?_⟩
  · intro w here
    have inside : i < words.length := (List.getElem?_eq_some_iff.mp here).1
    have onCourse := course (Nat.le_of_lt inside)
    obtain ⟨result, next⟩ := step_of_isStraight onCourse (Nat.lt_of_lt_of_le inside fits)
      (program.nextWord onCourse here) (straight w (List.mem_of_getElem? here)) byte
    exact ⟨result, next.pc, next.memory⟩
  · intro last room
    have onCourse := course (Nat.le_of_eq last)
    rw [last] at onCourse
    obtain ⟨running, free⟩ := onCourse.ready
    have ended : reply = _ :=
      step_of_nextWord_zero running free (program.nextWord_behind onCourse room) byte
    rw [ended]
    exact ⟨rfl, onCourse.pc⟩
  · intro last full
    have onCourse := course (Nat.le_of_eq last)
    obtain ⟨running, free⟩ := onCourse.ready
    have pc : (loaded.after before).pc.toNat = 4096 := by
      rw [onCourse.pc, last, full]
    have failed : reply = _ :=
      step_of_nextWord_error running free (nextWord_of_le (by rw [pc]; decide)) byte
    rw [failed, pc]
    rfl

/-- Of three words the first one is executed as `6XNN`.  The second one, `5121`, is of no family,
and is passed over while key 3 is held and the timers have ticked.  Behind the third one the machine
comes to its end.  A program of 1792 words is gone through as well, and then there is nothing to
fetch. -/
theorem short_and_full_programs_run_to_the_end :
    let short : List Word := [0x6105, 0x5121, 0xF115]
    let full : List Word := List.replicate 1792 0x7001
    let before : List Operation := [.keyDown 3, .step 0, .clock]
    let later : List Operation := [.keyDown 3, .step 0, .clock, .step 0, .keyUp 3, .step 0]
    let steps : List Operation := List.replicate 1792 (.step 0)
    (((powerOn.load (Memory.image short)).state.after [.keyDown 3]).step 0).result =
      .ok (.executed .setImmediate) ∧
    (((powerOn.load (Memory.image short)).state.after before).step 0).result =
      .ok (.unknownWord 0x5121) ∧
    (((powerOn.load (Memory.image short)).state.after before).step 0).state.pc.toNat = 516 ∧
    (((powerOn.load (Memory.image short)).state.after later).step 0).result = .ok .halted ∧
    (((powerOn.load (Memory.image short)).state.after later).step 0).state.pc.toNat = 518 ∧
    (((powerOn.load (Memory.image full)).state.after steps).step 0).result =
      .error (.memoryFault 4096) := by
  intro short full before later steps
  have none (opcode : Opcode) : ¬ opcode.Includes 0x5121 := by
    cases opcode <;> decide
  have straight : ∀ w ∈ short, w.IsStraight := by
    simp only [short, List.forall_mem_cons]
    exact ⟨⟨by decide, .inl ⟨.setImmediate, rfl, by decide⟩⟩, ⟨by decide, .inr none⟩,
      ⟨by decide, .inl ⟨.setDelayTimer, rfl, by decide⟩⟩, List.forall_mem_nil _⟩
  have same : ∀ w ∈ full, w.IsStraight := by
    intro w mem
    obtain ⟨-, rfl⟩ := List.mem_replicate.mp mem
    exact ⟨by decide, .inl ⟨.add, rfl, by decide⟩⟩
  have play : ∀ operation ∈ steps, operation.isPlay = true := by
    intro operation mem
    obtain ⟨-, rfl⟩ := List.mem_replicate.mp mem
    rfl
  have length : full.length = 1792 := List.length_replicate
  have count : steps.countP Operation.isStep = full.length := by
    rw [List.countP_replicate, length]
    rfl
  obtain ⟨-, first, -, -⟩ := straight_program_runs_word_for_word powerOn short (by decide) straight
    [.keyDown 3] (by decide) 0
  obtain ⟨-, second, -, -⟩ := straight_program_runs_word_for_word powerOn short (by decide) straight
    before (by decide) 0
  obtain ⟨-, -, behind, -⟩ := straight_program_runs_word_for_word powerOn short (by decide) straight
    later (by decide) 0
  obtain ⟨-, -, -, outside⟩ := straight_program_runs_word_for_word powerOn full
    (Nat.le_of_eq length) same steps play 0
  obtain ⟨passed, -, -⟩ := first 0x6105 rfl
  obtain ⟨skipped, pc, -⟩ := second 0x5121 rfl
  obtain ⟨ended, stays⟩ := behind rfl (by decide)
  exact ⟨passed.executed .setImmediate (by decide), skipped.unknown none, pc.trans (by decide),
    ended, stays.trans (by decide), outside count length⟩

end Machine

end Chip8
