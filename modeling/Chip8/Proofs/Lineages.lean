import Chip8.Proofs.Faults
import Chip8.Proofs.Keys
import Chip8.Proofs.Outcomes
import Mathlib.Data.List.Forall2

/-!
# What the mode changes

Two machines that differ in nothing but the mode go the same way, until one of four families is
executed: the two shifts and the two block transfers.  Whether an instruction fails, and how, does
not depend on the mode at all, so even these four have the same outcome in both machines; they leave
different registers, or a different index, and nothing else.

A machine that differs from `m` in the mode is written `m.setMode mode`.  For everything but the
four families it makes no difference whether the mode is set before or after.

## Main definitions

* `Machine.SameButMode` — two states that agree on everything but the mode
* `Opcode.dependsOnMode`, `Word.IsShift`, `Word.IsTransfer` — the four families and their words
* `Machine.StepsAlike` — what the steps of two such machines have in common

## Main statements

* `performed_setMode`, `execute_setMode`, `step_setMode` — outside the four families the mode has no
  part in what is done
* `stepsAlike_setMode` — what a step of any family does in two modes
* `history_alike` — runs that execute none of the four families
* `mode_changes_shifts_and_transfers` — all of this together
-/

namespace Chip8

/-! ## The four families -/

/-- A word `8XY6` or `8XYE`. -/
def Word.IsShift (w : Word) : Prop :=
  w &&& 0xF00F = 0x8006 ∨ w &&& 0xF00F = 0x800E

/-- A word `FX55` or `FX65`. -/
def Word.IsTransfer (w : Word) : Prop :=
  w &&& 0xF0FF = 0xF055 ∨ w &&& 0xF0FF = 0xF065

namespace Opcode

/-- What an instruction of the family does depends on the mode. -/
def dependsOnMode : Opcode → Bool
  | .rightShift | .leftShift | .store | .load => true
  | _ => false

theorem decode_of_isShift {w : Word} (shift : w.IsShift) :
    decode w = some .rightShift ∨ decode w = some .leftShift :=
  shift.imp (decode_rightShift_iff w).mpr (decode_leftShift_iff w).mpr

theorem decode_of_isTransfer {w : Word} (transfer : w.IsTransfer) :
    decode w = some .store ∨ decode w = some .load :=
  transfer.imp (decode_store_iff w).mpr (decode_load_iff w).mpr

/-- The words of the four families are the shifts and the transfers. -/
theorem isShift_or_isTransfer {w : Word} {opcode : Opcode} (family : decode w = some opcode)
    (depends : opcode.dependsOnMode = true) : w.IsShift ∨ w.IsTransfer := by
  cases opcode with
  | rightShift => exact .inl (.inl ((decode_rightShift_iff w).mp family))
  | leftShift => exact .inl (.inr ((decode_leftShift_iff w).mp family))
  | store => exact .inr (.inl ((decode_store_iff w).mp family))
  | load => exact .inr (.inr ((decode_load_iff w).mp family))
  | _ => cases depends

end Opcode

/-- The reply with the state put into the given mode. -/
def Reply.setMode {α : Type} (reply : Reply Machine α) (mode : Mode) : Reply Machine α :=
  { reply with state := reply.state.setMode mode }

namespace Machine

/-- The two states agree on everything but the mode. -/
def SameButMode (m n : Machine) : Prop :=
  n = m.setMode n.mode

theorem sameButMode_setMode (m : Machine) (mode : Mode) : m.SameButMode (m.setMode mode) := rfl

variable {m n : Machine} {mode : Mode} {w : Word} {opcode : Opcode} {byte : UInt8} {e : Error}

/-! ## Instructions and steps -/

theorem skipWhen_setMode (m : Machine) (mode : Mode) (condition : Bool) :
    (m.setMode mode).skipWhen condition = (m.skipWhen condition).setMode mode := by
  cases condition <;> rfl

/-- Outside the four families the mode has no part in what an instruction does. -/
theorem performed_setMode (neutral : opcode.dependsOnMode = false) (m : Machine) (mode : Mode)
    (w : Word) (byte : UInt8) :
    (m.setMode mode).performed opcode w byte = (m.performed opcode w byte).setMode mode := by
  cases opcode with
  | rightShift | leftShift | store | load => cases neutral
  | skipEqX | skipNeqX | skipXEqY | skipXNeqY | skipIfKeyPressed | skipIfKeyNotPressed =>
      exact skipWhen_setMode m mode _
  | _ => rfl

/-- The mode has no part in whether an instruction fails. -/
theorem refusal_setMode (m : Machine) (mode : Mode) (opcode : Opcode) (w : Word) :
    (m.setMode mode).refusal opcode w = m.refusal opcode w := rfl

/-- A word of the four families does not take effect, if the word is one. -/
def Neutral (m : Machine) (w : Word) : Prop :=
  ∀ opcode, Opcode.decode w = some opcode → opcode.dependsOnMode = true → m.refusal opcode w ≠ none

theorem Neutral.dependsOnMode_eq_false (neutral : m.Neutral w)
    (family : Opcode.decode w = some opcode) (accepted : m.refusal opcode w = none) :
    opcode.dependsOnMode = false := by
  cases depends : opcode.dependsOnMode with
  | false => rfl
  | true => exact absurd accepted (neutral opcode family depends)

theorem execute_setMode (neutral : m.Neutral w) (mode : Mode) (byte : UInt8) :
    (m.setMode mode).execute w byte = (m.execute w byte).setMode mode := by
  cases family : Opcode.decode w with
  | none =>
      rw [execute_of_unknown family, execute_of_unknown family]
      rfl
  | some opcode =>
      cases refused : m.refusal opcode w with
      | some e =>
          rw [execute_of_refused family refused,
            execute_of_refused family ((refusal_setMode m mode opcode w).trans refused)]
          rfl
      | none =>
          rw [execute_of_accepted family refused,
            execute_of_accepted family ((refusal_setMode m mode opcode w).trans refused),
            performed_setMode (neutral.dependsOnMode_eq_false family refused)]
          rfl

theorem Ready.setMode (ready : m.Ready) (mode : Mode) : (m.setMode mode).Ready :=
  ⟨ready.running, ready.free⟩

/-- What a step does if it executes none of the four families. -/
theorem step_setMode (neutral : m.Ready → ∀ w, m.nextWord = .ok w → m.Neutral w) (mode : Mode)
    (byte : UInt8) : (m.setMode mode).step byte = (m.step byte).setMode mode := by
  -- everything a step is decided by is the same in both modes
  cases m.cycle byte with
  | halted before reply =>
      rw [reply, step_of_halted (m := m.setMode mode) before]
      rfl
  | waiting target running awaited reply =>
      rw [reply, step_of_awaiting (m := m.setMode mode) running awaited]
      rfl
  | unfetched e ready fetch reply =>
      rw [reply, step_of_nextWord_error (m := m.setMode mode) ready.running ready.free fetch]
      rfl
  | ended ready fetch reply =>
      rw [reply, step_of_nextWord_zero (m := m.setMode mode) ready.running ready.free fetch]
      rfl
  | unknown w ready fetch nonzero family reply =>
      rw [reply, step_of_unknown (ready.setMode mode) fetch nonzero family]
      rfl
  | executed w opcode next ready fetch nonzero family effect reply =>
      have accepted := refusal_eq_none_of_ok effect
      rw [refusal_moved] at accepted
      have free := (neutral ready w fetch).dependsOnMode_eq_false family accepted
      rw [step_of_accepted ready fetch nonzero family accepted,
        step_of_accepted (ready.setMode mode) fetch nonzero family accepted]
      have next := performed_setMode free { m with pc := m.pc + 2 } mode w byte
      simp only [Reply.setMode, ← next]
      rfl
  | refused w opcode e left ready fetch nonzero family effect reply =>
      obtain ⟨refused, -⟩ := perform_eq_error_iff.mp effect
      rw [refusal_moved] at refused
      rw [step_of_refused ready fetch nonzero family refused,
        step_of_refused (ready.setMode mode) fetch nonzero family refused]
      rfl

/-! ## Transfers and shifts -/

/-- A transfer in another mode differs in the mode and the index only. -/
theorem performed_setMode_of_transfer (transfer : opcode = .store ∨ opcode = .load) (m : Machine)
    (mode : Mode) (w : Word) (byte : UInt8) :
    SameButMode
      { m.performed opcode w byte with
        index := ((m.setMode mode).performed opcode w byte).index }
      ((m.setMode mode).performed opcode w byte) := by
  rcases transfer with rfl | rfl <;> rfl

/-- Where the index stands after a transfer, in the mode of the machine. -/
def IndexAfterTransfer (m : Machine) (w : Word) (next : Machine) : Prop :=
  match m.mode with
  | .chip8 => next.index.toNat = m.index.toNat + w.x.val + 1
  | .superChip => next.index = m.index

theorem indexAfterTransfer_performed (transfer : opcode = .store ∨ opcode = .load)
    (accepted : m.refusal opcode w = none) (byte : UInt8) :
    m.IndexAfterTransfer w (m.performed opcode w byte) := by
  have range : m.rangeRefusal (transferCount w) = none := by
    rcases transfer with rfl | rfl <;> exact accepted
  have index : (m.performed opcode w byte).index = m.nextIndex (transferCount w) := by
    rcases transfer with rfl | rfl <;> rfl
  rw [IndexAfterTransfer, index]
  cases mode : m.mode with
  | chip8 => exact toNat_nextIndex range mode
  | superChip => simp only [nextIndex, mode]

/-- A shift in another mode differs in the mode and the registers only. -/
theorem performed_setMode_of_shift (shift : opcode = .rightShift ∨ opcode = .leftShift)
    (m : Machine) (mode : Mode) (w : Word) (byte : UInt8) :
    SameButMode
      { m.performed opcode w byte with
        registers := ((m.setMode mode).performed opcode w byte).registers }
      ((m.setMode mode).performed opcode w byte) := by
  rcases shift with rfl | rfl <;> rfl

/-- A shift writes `VX` and `VF` only. -/
theorem read_performed_of_shift (shift : opcode = .rightShift ∨ opcode = .leftShift)
    {r : Register} (x : r ≠ w.x) (flag : r ≠ Register.flag) (m : Machine) (byte : UInt8) :
    (m.performed opcode w byte).registers.read r = m.registers.read r := by
  have written (value bit : UInt8) :
      (m.writeResult w value bit).registers.read r = m.registers.read r := by
    rw [writeResult, Registers.read_write_of_ne flag, Registers.read_write_of_ne x]
  rcases shift with rfl | rfl
  · exact written _ _
  · exact written _ _

/-- Where `VX` and `VY` are the same, a shift reads the same in both modes. -/
theorem shiftOperand_eq (same : m.vx w = m.vy w) : m.shiftOperand w = m.vx w := by
  cases mode : m.mode with
  | chip8 => simp only [shiftOperand, mode, same]
  | superChip => simp only [shiftOperand, mode]

theorem performed_setMode_of_shift_same (shift : opcode = .rightShift ∨ opcode = .leftShift)
    (same : m.vx w = m.vy w) (mode : Mode) (byte : UInt8) :
    (m.performed opcode w byte).SameButMode ((m.setMode mode).performed opcode w byte) := by
  have operand : (m.setMode mode).shiftOperand w = m.shiftOperand w :=
    (shiftOperand_eq (m := m.setMode mode) same).trans (shiftOperand_eq same).symm
  rcases shift with rfl | rfl
  · simp only [performed, perform, operand]
    rfl
  · simp only [performed, perform, operand]
    rfl

/-! ## Steps in two modes -/

/-- What a step does in two machines that may differ in the mode. -/
structure StepsAlike (m n : Machine) (byte : UInt8) : Prop where
  /-- The outcome or the error is the same. -/
  result : (m.step byte).result = (n.step byte).result
  /-- Outside the four families the states differ in the mode at most. -/
  others : (m.Ready → ∀ w, m.nextWord = .ok w → ¬ w.IsShift ∧ ¬ w.IsTransfer) →
    (m.step byte).state.SameButMode (n.step byte).state
  /-- A transfer leaves the same but for the mode and the index, and if it fails the index is the
  same as well. -/
  transfer : ∀ w, m.Ready → m.nextWord = .ok w → w.IsTransfer →
    SameButMode { (m.step byte).state with index := (n.step byte).state.index }
      (n.step byte).state ∧
    (∀ e, (m.step byte).result = .error e →
      (m.step byte).state.SameButMode (n.step byte).state) ∧
    ∀ outcome, (m.step byte).result = .ok outcome →
      m.IndexAfterTransfer w (m.step byte).state ∧ n.IndexAfterTransfer w (n.step byte).state
  /-- A shift leaves the same but for the mode, `VX` and `VF`, and if `VX` was `VY` before these two
  are the same as well. -/
  shift : ∀ w, m.Ready → m.nextWord = .ok w → w.IsShift →
    SameButMode { (m.step byte).state with registers := (n.step byte).state.registers }
      (n.step byte).state ∧
    (∀ r, r ≠ w.x → r ≠ Register.flag →
      (m.step byte).state.registers.read r = (n.step byte).state.registers.read r) ∧
    (m.vx w = m.vy w → (m.step byte).state.SameButMode (n.step byte).state)

theorem ne_zero_of_isShift (shift : w.IsShift) : w ≠ 0 := by
  rintro rfl
  rcases shift with h | h <;> exact absurd h (by decide)

theorem ne_zero_of_isTransfer (transfer : w.IsTransfer) : w ≠ 0 := by
  rintro rfl
  rcases transfer with h | h <;> exact absurd h (by decide)

/-- An instruction that takes effect in one mode does so in the other, on the same state. -/
theorem step_setMode_of_accepted (ready : m.Ready) (fetch : m.nextWord = .ok w) (nonzero : w ≠ 0)
    (family : Opcode.decode w = some opcode) (accepted : m.refusal opcode w = none) (mode : Mode)
    (byte : UInt8) :
    (m.setMode mode).step byte =
      ⟨.ok (.executed opcode), ({ m with pc := m.pc + 2 }.setMode mode).performed opcode w byte,
        announcement opcode w⟩ :=
  step_of_accepted (ready.setMode mode) fetch nonzero family accepted byte

/-- The mode has no part in the outcome of a step. -/
theorem step_setMode_result (m : Machine) (mode : Mode) (byte : UInt8) :
    ((m.setMode mode).step byte).result = (m.step byte).result := by
  by_cases neutral : m.Ready → ∀ w, m.nextWord = .ok w → m.Neutral w
  · rw [step_setMode neutral]
    rfl
  · -- one of the four families takes effect, and it does so in both modes
    simp only [Neutral, not_forall, not_not] at neutral
    obtain ⟨ready, w, fetch, opcode, family, depends, accepted⟩ := neutral
    have nonzero : w ≠ 0 := (Opcode.isShift_or_isTransfer family depends).elim ne_zero_of_isShift
      ne_zero_of_isTransfer
    rw [step_of_accepted ready fetch nonzero family accepted,
      step_setMode_of_accepted ready fetch nonzero family accepted]

theorem stepsAlike_setMode (m : Machine) (mode : Mode) (byte : UInt8) :
    m.StepsAlike (m.setMode mode) byte where
  result := (step_setMode_result m mode byte).symm
  others outside := by
    have neutral : m.Ready → ∀ w, m.nextWord = .ok w → m.Neutral w := by
      intro ready w fetch opcode family depends
      obtain ⟨noShift, noTransfer⟩ := outside ready w fetch
      exact ((Opcode.isShift_or_isTransfer family depends).elim noShift noTransfer).elim
    rw [step_setMode neutral]
    exact sameButMode_setMode _ mode
  transfer w ready fetch transfer := by
    have nonzero := ne_zero_of_isTransfer transfer
    obtain ⟨opcode, family, kind⟩ : ∃ opcode, Opcode.decode w = some opcode ∧
        (opcode = .store ∨ opcode = .load) :=
      (Opcode.decode_of_isTransfer transfer).elim (⟨_, ·, .inl rfl⟩) (⟨_, ·, .inr rfl⟩)
    cases refused : m.refusal opcode w with
    | some e =>
        rw [step_of_refused ready fetch nonzero family refused,
          step_of_refused (ready.setMode mode) fetch nonzero family refused]
        exact ⟨rfl, fun _ _ => rfl, nofun⟩
    | none =>
        have accepted : { m with pc := m.pc + 2 }.refusal opcode w = none := refused
        rw [step_of_accepted ready fetch nonzero family refused,
          step_setMode_of_accepted ready fetch nonzero family refused]
        refine ⟨performed_setMode_of_transfer kind _ mode w byte, nofun, ?_⟩
        intro outcome _
        have here := indexAfterTransfer_performed kind accepted byte
        have there := indexAfterTransfer_performed (m := { m with pc := m.pc + 2 }.setMode mode)
          kind accepted byte
        exact ⟨here, there⟩
  shift w ready fetch shift := by
    have nonzero := ne_zero_of_isShift shift
    obtain ⟨opcode, family, kind⟩ : ∃ opcode, Opcode.decode w = some opcode ∧
        (opcode = .rightShift ∨ opcode = .leftShift) :=
      (Opcode.decode_of_isShift shift).elim (⟨_, ·, .inl rfl⟩) (⟨_, ·, .inr rfl⟩)
    -- a shift cannot fail
    have accepted : m.refusal opcode w = none := by rcases kind with rfl | rfl <;> rfl
    rw [step_of_accepted ready fetch nonzero family accepted,
      step_setMode_of_accepted ready fetch nonzero family accepted]
    refine ⟨performed_setMode_of_shift kind _ mode w byte, ?_, ?_⟩
    · intro r x flag
      have here := read_performed_of_shift kind x flag { m with pc := m.pc + 2 } byte
      have there := read_performed_of_shift kind x flag
        ({ m with pc := m.pc + 2 }.setMode mode) byte
      exact here.trans there.symm
    · intro same
      exact performed_setMode_of_shift_same (m := { m with pc := m.pc + 2 }) kind same mode byte

/-! ## Runs in two modes -/

/-- An operation that executes none of the four families has the same result in both modes, and
leaves states that differ in the mode at most. -/
theorem apply_alike (same : m.SameButMode n) {operation : Operation}
    (neutral : ∀ opcode, (m.apply operation).result = some (.ok (.executed opcode)) →
      opcode.dependsOnMode = false) :
    (m.apply operation).result = (n.apply operation).result ∧
      (m.apply operation).state.SameButMode (n.apply operation).state := by
  obtain ⟨mode, rfl⟩ : ∃ mode, n = m.setMode mode := ⟨n.mode, same⟩
  cases operation with
  | step byte =>
      have free : m.Ready → ∀ w, m.nextWord = .ok w → m.Neutral w := by
        intro ready w fetch opcode family depends accepted
        have nonzero : w ≠ 0 := (Opcode.isShift_or_isTransfer family depends).elim
          ne_zero_of_isShift ne_zero_of_isTransfer
        have executed := neutral opcode (by
          rw [apply, step_of_accepted ready fetch nonzero family accepted])
        rw [depends] at executed
        cases executed
      simp only [apply, step_setMode free]
      exact ⟨rfl, rfl⟩
  | execute w byte =>
      have free : m.Neutral w := by
        intro opcode family depends accepted
        have executed := neutral opcode (by rw [apply, execute_of_accepted family accepted])
        rw [depends] at executed
        cases executed
      simp only [apply, execute_setMode free]
      exact ⟨rfl, rfl⟩
  | keyDown k =>
      refine ⟨rfl, ?_⟩
      cases awaited : m.awaiting with
      | none =>
          rw [apply, apply, keyDown_of_awaiting_eq_none awaited,
            keyDown_of_awaiting_eq_none (m := m.setMode mode) awaited]
          rfl
      | some target =>
          rw [apply, apply, keyDown_of_awaiting awaited,
            keyDown_of_awaiting (m := m.setMode mode) awaited]
          rfl
  | clock | keyUp k | setRegister r value | setMode new | reset clearMemory | load image
  | poke a bytes => exact ⟨rfl, rfl⟩

/-- A run that executes none of the four families goes the same way in both modes. -/
theorem history_alike (same : m.SameButMode n) {operations : List Operation}
    (neutral : ∀ moment ∈ m.history operations, ∀ opcode,
      moment.result = some (.ok (.executed opcode)) → opcode.dependsOnMode = false) :
    List.Forall₂ (fun a b => a.result = b.result ∧ a.after.SameButMode b.after)
      (m.history operations) (n.history operations) := by
  induction operations generalizing m n with
  | nil => exact .nil
  | cons operation rest ih =>
      have first := apply_alike same (neutral (m.moment operation) List.mem_cons_self)
      exact .cons first (ih first.2 fun moment mem => neutral moment (List.mem_cons_of_mem _ mem))

/-- **The mode changes the shifts and the block transfers, and nothing else.**  Let two machines
agree on everything but the mode.  A step with the same random byte has the same outcome or the same
error in both.  Unless it fetches a shift or a transfer, the states differ in the mode at most
afterwards.  After a transfer they may also differ in the index, which has advanced behind the block
in the older mode and stayed in the newer one, if the transfer did not fail; after a shift they may
also differ in `VX` and `VF`, but not if `VX` was `VY`.  So every run that executes none of the four
families has the same outcomes in both machines, and the states differ in the mode at most.  Each of
the four families does leave different states somewhere. -/
theorem mode_changes_shifts_and_transfers :
    (∀ m n : Machine, m.SameButMode n →
      (∀ byte, m.StepsAlike n byte) ∧
      ∀ operations : List Operation,
        (∀ moment ∈ m.history operations, ∀ opcode,
          moment.result = some (.ok (.executed opcode)) → opcode.dependsOnMode = false) →
        List.Forall₂ (fun a b => a.result = b.result ∧ a.after.SameButMode b.after)
          (m.history operations) (n.history operations)) ∧
    ∀ opcode, opcode.dependsOnMode = true → ∃ (m : Machine) (w : Word) (byte : UInt8),
      Opcode.decode w = some opcode ∧
      ¬ ((m.setMode .chip8).execute w byte).state.SameButMode
        ((m.setMode .superChip).execute w byte).state := by
  constructor
  · intro m n same
    obtain ⟨mode, rfl⟩ : ∃ mode, n = m.setMode mode := ⟨n.mode, same⟩
    exact ⟨stepsAlike_setMode m mode, fun operations => history_alike same⟩
  · intro opcode depends
    -- `V0` is zero and `V1` is two, and the index is zero
    let m : Machine := { powerOn with registers := Registers.zeroed.write 1 2 }
    have differs (w : Word) (apart :
        ((m.setMode .chip8).execute w 0).state.registers.read 0 ≠
            ((m.setMode .superChip).execute w 0).state.registers.read 0 ∨
          ((m.setMode .chip8).execute w 0).state.index ≠
            ((m.setMode .superChip).execute w 0).state.index) :
        ¬ ((m.setMode .chip8).execute w 0).state.SameButMode
          ((m.setMode .superChip).execute w 0).state := by
      intro same
      rw [SameButMode] at same
      rcases apart with apart | apart
      · exact apart (congrArg (fun s => s.registers.read 0) same).symm
      · exact apart (congrArg Machine.index same).symm
    cases opcode with
    | rightShift => exact ⟨m, 0x8016, 0, by decide +kernel, differs _ (by decide +kernel)⟩
    | leftShift => exact ⟨m, 0x801E, 0, by decide +kernel, differs _ (by decide +kernel)⟩
    | store => exact ⟨m, 0xF055, 0, by decide +kernel, differs _ (by decide +kernel)⟩
    | load => exact ⟨m, 0xF065, 0, by decide +kernel, differs _ (by decide +kernel)⟩
    | _ => cases depends

/-- `6003` goes the same way in both modes, with a tick and a key besides.  `F055` moves the index
from `0x300` to `0x301` in one mode and leaves it in the other.  And `8116`, which shifts `V1` into
itself, leaves the same in both. -/
theorem store_moves_index_in_one_mode :
    let m : Machine := { powerOn.poke 512 [0x60, 0x03] with mode := .chip8 }
    let operations : List Operation := [.step 0, .clock, .keyDown 1]
    let s : Machine := { powerOn.poke 512 [0xF0, 0x55] with index := 0x300, mode := .chip8 }
    let t : Machine := { powerOn.poke 512 [0x81, 0x16] with
      registers := Registers.zeroed.write 1 7 }
    m.SameButMode (m.setMode .superChip) ∧
    List.Forall₂ (fun a b => a.result = b.result ∧ a.after.SameButMode b.after)
      (m.history operations) ((m.setMode .superChip).history operations) ∧
    (s.step 0).state.index.toNat = 0x301 ∧
    ((s.setMode .superChip).step 0).state.index = 0x300 ∧
    (t.step 0).state.SameButMode ((t.setMode .chip8).step 0).state := by
  intro m operations s t
  have law := mode_changes_shifts_and_transfers.1
  have neutral : ∀ moment ∈ m.history operations, ∀ opcode,
      moment.result = some (.ok (.executed opcode)) → opcode.dependsOnMode = false := by
    have results : (m.history operations).map Moment.result =
        [some (.ok (.executed .setImmediate)), none, none] := by decide +kernel
    intro moment mem opcode executed
    have found := List.mem_map_of_mem (f := Moment.result) mem
    rw [results, executed] at found
    simp only [List.mem_cons, Option.some.injEq, Except.ok.injEq, Outcome.executed.injEq,
      reduceCtorEq, List.not_mem_nil, or_false] at found
    rw [found]
    rfl
  have run := (law m (m.setMode .superChip) rfl).2 operations neutral
  have stored : (s.step 0).result = .ok (.executed .store) := by decide +kernel
  obtain ⟨-, -, index⟩ := ((law s (s.setMode .superChip) rfl).1 0).transfer 0xF055
    ⟨rfl, rfl⟩ (by decide +kernel) (.inl rfl)
  have advanced : (s.step 0).state.index.toNat = 0x301 := (index _ stored).1
  have stayed : ((s.setMode .superChip).step 0).state.index = 0x300 := (index _ stored).2
  obtain ⟨-, -, shifted⟩ := ((law t (t.setMode .chip8) rfl).1 0).shift 0x8116
    ⟨rfl, rfl⟩ (by decide +kernel) (.inl rfl)
  exact ⟨rfl, run, advanced, stayed, shifted rfl⟩

end Machine

end Chip8
