import Chip8.Proofs.ControlFlow
import Chip8.Proofs.Decoding
import Chip8.Proofs.Keys
import Chip8.Proofs.Timers

/-!
# The life cycle of the machine

A machine goes on, waits for a key, or has come to its end.  The status is read off two flags in two
places: the one that says that the end is reached, and the latch of the keypad.  Every operation can
touch one of them or the other, so that the two never hold at once is a law about all of them.

`Change` lists what an operation can do to the two flags, and with each way everything that is
needed of it.  The legal transitions are read off this list, and so are the two invariants: a
machine that has come to its end waits for no key, and it stands on the word zero as long as nobody
else writes to the memory.

## Main definitions

* `Machine.Change` — the ways in which an operation can change the status
* `Machine.LifeCycle` — the transitions from one status to another
* `Machine.Exclusive`, `Machine.AtEnd` — the two invariants

## Main statements

* `change` — every operation that executes only what it fetches goes one of these ways
* `Change.lifeCycle` — so its transitions are legal
* `Change.exclusive`, `Change.atEnd` — and it keeps the invariants
* `status_follows_life_cycle` — all of this for every state of every run
-/

namespace Chip8.Machine

variable {m next : Machine} {operation : Operation} {byte : UInt8}

/-! ## The status -/

theorem status_eq_halted_iff : m.status = .halted ↔ m.halted = true := by
  unfold status
  cases m.halted <;> cases m.awaiting <;> simp

theorem status_eq_awaitingInput_iff :
    m.status = .awaitingInput ↔ m.halted = false ∧ m.awaiting.isSome = true := by
  unfold status
  cases m.halted <;> cases m.awaiting <;> simp

theorem status_eq_ready_iff : m.status = .ready ↔ m.Ready := by
  constructor
  · unfold status
    cases running : m.halted <;> cases free : m.awaiting <;> simp
    exact ⟨running, free⟩
  · intro ready
    simp [status, ready.running, ready.free]

/-- The status depends on the two flags only. -/
theorem status_congr (halted : next.halted = m.halted) (awaiting : next.awaiting = m.awaiting) :
    next.status = m.status := by
  rw [status, status, halted, awaiting]

/-! ## What an operation does to the status -/

/-- How an operation can take the status of `m` to that of `next`. -/
inductive Change (m : Machine) : Operation → Machine → Prop
  /-- A step finds the word zero, and nothing is new but the end. -/
  | ended (byte : UInt8) (ready : m.Ready) (fetch : m.nextWord = .ok 0) :
      Change m (.step byte) { m with halted := true }
  /-- A step executes `FX0A`. -/
  | awaited (byte : UInt8) (w : Word) {next : Machine} (ready : m.Ready)
      (fetch : m.nextWord = .ok w) (nonzero : w ≠ 0) (family : w &&& 0xF0FF = 0xF00A)
      (executed : (m.moment (.step byte)).executed = some .getKey)
      (running : next.halted = false) (latch : next.awaiting = some w.x) :
      Change m (.step byte) next
  /-- A key goes down. -/
  | pressed (k : Key) {next : Machine} (latch : next.awaiting = none)
      (halted : next.halted = m.halted) (fetch : next.nextWord = m.nextWord) :
      Change m (.keyDown k) next
  | restarted {operation : Operation} {next : Machine} (restart : operation.isRestart = true)
      (ready : next.Ready) : Change m operation next
  /-- Both flags stay as they are.  If the machine does not go on, the word ahead changes only if
  memory is written from outside. -/
  | kept {operation : Operation} {next : Machine} (goesOn : operation.isRestart = false)
      (noKey : ∀ k, operation ≠ .keyDown k)
      (noEnd : ∀ byte, operation = .step byte → m.Ready → m.nextWord ≠ .ok 0)
      (noWait : (m.moment operation).executed ≠ some .getKey)
      (halted : next.halted = m.halted) (awaiting : next.awaiting = m.awaiting)
      (fetch : ¬ m.Ready → operation.isPoke = false → next.nextWord = m.nextWord) :
      Change m operation next

@[simp] theorem skipWhen_halted (m : Machine) (condition : Bool) :
    (m.skipWhen condition).halted = m.halted := by
  cases condition <;> rfl

/-- No instruction of a family ends the program. -/
theorem performed_halted (m : Machine) (opcode : Opcode) (w : Word) (byte : UInt8) :
    (m.performed opcode w byte).halted = m.halted := by
  cases opcode with
  | skipEqX | skipNeqX | skipXEqY | skipXNeqY | skipIfKeyPressed | skipIfKeyNotPressed =>
      exact skipWhen_halted m _
  | _ => rfl

/-- A step that does not find the word zero does not end the program. -/
theorem step_halted (noEnd : m.Ready → m.nextWord ≠ .ok 0) :
    (m.step byte).state.halted = m.halted := by
  cases m.cycle byte with
  | halted before reply | waiting _ _ before reply => rw [reply]
  | unfetched e ready fetch reply => rw [reply]
  | ended ready fetch reply => exact absurd fetch (noEnd ready)
  | unknown w ready fetch nonzero family reply => rw [reply]
  | executed w opcode next ready fetch nonzero family effect reply =>
      obtain ⟨-, rfl⟩ := perform_eq_ok_iff.mp effect
      rw [reply]
      exact performed_halted _ opcode w byte
  | refused w opcode e left ready fetch nonzero family effect reply =>
      obtain ⟨-, rfl⟩ := perform_eq_error_iff.mp effect
      rw [reply]

/-- Only steps execute what they fetch. -/
theorem isStep_of_executed {opcode : Opcode}
    (executed : (m.moment operation).executed = some opcode) : ∃ byte, operation = .step byte := by
  cases operation with
  | step byte => exact ⟨byte, rfl⟩
  | _ => cases executed

/-- A step that executes `FX0A` begins a wait for the register that its word names. -/
theorem step_of_getKey (executed : (m.moment (.step byte)).executed = some .getKey) :
    m.Ready ∧ (m.step byte).state.halted = false ∧
      ∃ w, m.nextWord = .ok w ∧ w ≠ 0 ∧ w &&& 0xF0FF = 0xF00A ∧
        (m.step byte).state.awaiting = some w.x := by
  obtain ⟨ready, w, fetch, nonzero, family, accepted⟩ := executed_step_iff.mp executed
  rw [step_of_accepted ready fetch nonzero family accepted]
  exact ⟨ready, ready.running, w, fetch, nonzero, (Opcode.decode_getKey_iff w).mp family, rfl⟩

theorem change_step (m : Machine) (byte : UInt8) : Change m (.step byte) (m.step byte).state := by
  by_cases ready : m.Ready
  · by_cases fetch : m.nextWord = .ok 0
    · rw [step_of_nextWord_zero ready.running ready.free fetch]
      exact .ended byte ready fetch
    · by_cases begins : (m.moment (.step byte)).executed = some .getKey
      · obtain ⟨-, running, w, fetched, nonzero, family, latch⟩ := step_of_getKey begins
        exact .awaited byte w ready fetched nonzero family begins running latch
      · have keypad := step_keypad (step_result_of_executed begins)
        have halted : (m.step byte).state.halted = m.halted := step_halted fun _ => fetch
        exact .kept rfl (fun k => nofun) (fun _ _ _ => fetch) begins halted
          (congrArg Keypad.awaiting keypad) fun idle => absurd ready idle
  · -- a step that is absorbed leaves everything as it is
    obtain ⟨outcome, reply, -⟩ := step_of_not_ready ready byte
    rw [reply]
    exact .kept rfl (fun k => nofun) (fun _ _ goesOn => absurd goesOn ready)
      (fun executed => ready (executed_step_iff.mp executed).1) rfl rfl fun _ _ => rfl

theorem change_keyDown (m : Machine) (k : Key) : Change m (.keyDown k) (m.keyDown k).state := by
  have latch : (m.keyDown k).state.awaiting = none := congrArg Keypad.awaiting (keyDown_keypad m k)
  cases awaited : m.awaiting with
  | none =>
      rw [keyDown_of_awaiting_eq_none awaited] at latch ⊢
      exact .pressed k latch rfl rfl
  | some target =>
      rw [keyDown_of_awaiting awaited] at latch ⊢
      exact .pressed k latch rfl rfl

/-- Every operation that executes only what it fetches goes one of the ways of `Change`. -/
theorem change (m : Machine) (fetched : operation.isDirect = false) :
    Change m operation (m.apply operation).state := by
  cases operation with
  | step byte => exact change_step m byte
  | execute w byte => cases fetched
  | keyDown k => exact change_keyDown m k
  | reset clearMemory | load image => exact .restarted rfl ⟨rfl, rfl⟩
  | poke a bytes =>
      exact .kept rfl (fun k => nofun) (fun byte => nofun) nofun rfl rfl fun _ => nofun
  | clock | keyUp k | setRegister r value | setMode mode =>
      exact .kept rfl (fun k => nofun) (fun byte => nofun) nofun rfl rfl fun _ _ => rfl

/-! ## Transitions -/

/-- How an operation takes `m` to `next`, as far as the status goes. -/
structure LifeCycle (m : Machine) (operation : Operation) (next : Machine) : Prop where
  /-- The program comes to its end in a step that finds the word zero, -/
  ends_iff : m.status ≠ .halted → (next.status = .halted ↔
    m.status = .ready ∧ m.nextWord = .ok 0 ∧ ∃ byte, operation = .step byte)
  /-- and then nothing else changes. -/
  ends_only : m.status ≠ .halted → next.status = .halted → next = { m with halted := true }
  /-- A wait begins in a step that executes `FX0A`, -/
  waits_iff : m.status ≠ .awaitingInput →
    (next.status = .awaitingInput ↔ (m.moment operation).executed = some .getKey)
  /-- and then the register that the word names waits. -/
  waits_for : m.status ≠ .awaitingInput → next.status = .awaitingInput →
    ∃ w, m.nextWord = .ok w ∧ w &&& 0xF0FF = 0xF00A ∧ next.awaiting = some w.x
  leaves_end_iff : m.status = .halted → (next.status ≠ .halted ↔ operation.isRestart = true)
  leaves_wait_iff : m.status = .awaitingInput → (next.status ≠ .awaitingInput ↔
    operation.isRestart = true ∨ ∃ k, operation = .keyDown k)

theorem Change.lifeCycle (change : Change m operation next) : LifeCycle m operation next := by
  cases change with
  | ended byte ready fetch =>
      have before : m.status = .ready := status_eq_ready_iff.mpr ready
      have after : { m with halted := true }.status = .halted := status_eq_halted_iff.mpr rfl
      have noWait : (m.moment (.step byte)).executed ≠ some .getKey := by
        intro executed
        obtain ⟨-, w, found, nonzero, -⟩ := executed_step_iff.mp executed
        exact nonzero (Except.ok.inj (found.symm.trans fetch))
      constructor <;> simp [before, after, fetch, noWait]
  | @awaited byte w next ready fetch nonzero family executed running latch =>
      have before : m.status = .ready := status_eq_ready_iff.mpr ready
      have after : next.status = .awaitingInput :=
        status_eq_awaitingInput_iff.mpr ⟨running, congrArg Option.isSome latch⟩
      constructor <;> simp [before, after, fetch, nonzero, family, executed, latch]
  | @pressed k next latch halted fetch =>
      have noWait : (m.moment (.keyDown k)).executed ≠ some .getKey := nofun
      have after : next.status = if m.halted then .halted else .ready := by
        rw [status, halted, latch]
        rfl
      cases ended : m.halted with
      | true =>
          have before : m.status = .halted := status_eq_halted_iff.mpr ended
          rw [ended, if_pos rfl] at after
          constructor <;> simp [before, after, noWait, Operation.isRestart]
      | false =>
          have before : m.status ≠ .halted := fun same => by
            rw [status_eq_halted_iff.mp same] at ended
            cases ended
          rw [ended, if_neg Bool.false_ne_true] at after
          constructor <;> simp [before, after, noWait]
  | restarted restart ready =>
      have after : next.status = .ready := status_eq_ready_iff.mpr ready
      have noStep (byte : UInt8) : operation ≠ .step byte := by
        rintro rfl
        cases restart
      have noWait : (m.moment operation).executed ≠ some .getKey := by
        intro executed
        obtain ⟨byte, step⟩ := isStep_of_executed executed
        exact noStep byte step
      constructor <;> simp [after, restart, noStep, noWait]
  | kept goesOn noKey noEnd noWait halted awaiting fetch =>
      have after : next.status = m.status := status_congr halted awaiting
      have noEnd (ready : m.status = .ready) (fetch : m.nextWord = .ok 0) (byte : UInt8) :
          operation ≠ .step byte :=
        fun step => noEnd byte step (status_eq_ready_iff.mp ready) fetch
      constructor <;> simp +contextual [after, goesOn, noKey, noWait, noEnd]

/-! ## Invariants -/

/-- A machine that has come to its end waits for no key. -/
def Exclusive (m : Machine) : Prop :=
  m.halted = true → m.awaiting = none

/-- A machine that has come to its end stands on the word zero. -/
def AtEnd (m : Machine) : Prop :=
  m.halted = true → m.nextWord = .ok 0

theorem Change.exclusive (change : Change m operation next) (exclusive : m.Exclusive) :
    next.Exclusive := by
  intro ended
  cases change with
  | ended byte ready fetch => exact ready.free
  | awaited byte w ready fetch nonzero family executed running latch =>
      rw [running] at ended
      cases ended
  | pressed k latch halted fetch => exact latch
  | restarted restart ready => exact ready.free
  | kept goesOn noKey noEnd noWait halted awaiting fetch =>
      rw [awaiting]
      exact exclusive (halted.symm.trans ended)

/-- The word under the program counter of a machine that has come to its end can only be written
from outside. -/
theorem Change.atEnd (change : Change m operation next) (noPoke : operation.isPoke = false)
    (atEnd : m.AtEnd) : next.AtEnd := by
  intro ended
  cases change with
  | ended byte ready fetch => exact fetch
  | awaited byte w ready fetch nonzero family executed running latch =>
      rw [running] at ended
      cases ended
  | pressed k latch halted fetch =>
      rw [fetch]
      exact atEnd (halted.symm.trans ended)
  | restarted restart ready =>
      rw [ready.running] at ended
      cases ended
  | kept goesOn noKey noEnd noWait halted awaiting fetch =>
      have before : m.halted = true := halted.symm.trans ended
      rw [fetch (not_ready_of_halted before) noPoke]
      exact atEnd before

theorem exclusive_after {operations : List Operation}
    (fetched : ∀ operation ∈ operations, operation.isDirect = false) :
    (powerOn.after operations).Exclusive :=
  after_invariant (P := Exclusive) (fun _ => rfl) fun operation mem state exclusive =>
    (state.change (fetched operation mem)).exclusive exclusive

theorem atEnd_after {operations : List Operation}
    (fetched : ∀ operation ∈ operations, operation.isDirect = false)
    (noPoke : ∀ operation ∈ operations, operation.isPoke = false) :
    (powerOn.after operations).AtEnd :=
  after_invariant (P := AtEnd) nofun fun operation mem state atEnd =>
    (state.change (fetched operation mem)).atEnd (noPoke operation mem) atEnd

/-- The word zero is made of two zero bytes. -/
theorem nextWord_eq_zero_iff : m.nextWord = .ok 0 ↔ m.pc.toNat < 4095 ∧
    m.memory.byte m.pc.toNat = 0 ∧ m.memory.byte (m.pc.toNat + 1) = 0 := by
  rw [nextWord_eq_ok_iff, wordAhead, ← UInt16.toNat_inj, Word.toNat_ofBytes, ← UInt8.toNat_inj,
    ← UInt8.toNat_inj]
  simp only [UInt16.reduceToNat, UInt8.reduceToNat]
  omega

/-- **The status follows the life cycle of the machine.**  Take any run from power-on of steps,
ticks, keys that go down or up, changes of registers, of the mode or of the memory, resets and
programs that are loaded, in any order.  In no state does the machine both wait for a key and stand
at its end.  The next operation, whichever it is, makes no transition but the legal ones: the
program ends only in a step that finds the word zero, which changes nothing else, and goes on only
after a restart; a wait begins only in a step that executes `FX0A`, and ends only with a key that
goes down or with a restart.  A step that finds the machine waiting or at its end leaves it as it
is.  And if nobody has written to the memory from outside, a machine at its end stands on two zero
bytes. -/
theorem status_follows_life_cycle (operations : List Operation)
    (fetched : ∀ operation ∈ operations, operation.isDirect = false) :
    let m := powerOn.after operations
    ¬ (m.halted = true ∧ m.awaiting.isSome = true) ∧
    (∀ next : Operation, next.isDirect = false → LifeCycle m next (m.apply next).state) ∧
    (m.status ≠ .ready → ∀ byte, ∃ outcome, m.step byte = ⟨.ok outcome, m, []⟩) ∧
    ((∀ operation ∈ operations, operation.isPoke = false) → m.status = .halted →
      m.pc.toNat < 4095 ∧ m.memory.byte m.pc.toNat = 0 ∧
      m.memory.byte (m.pc.toNat + 1) = 0) := by
  intro m
  refine ⟨?_, fun next plain => (m.change plain).lifeCycle, ?_, ?_⟩
  · rintro ⟨ended, waits⟩
    rw [exclusive_after fetched ended] at waits
    cases waits
  · intro notReady byte
    have idle : ¬ m.Ready := fun ready => notReady (status_eq_ready_iff.mpr ready)
    obtain ⟨outcome, reply, -⟩ := step_of_not_ready idle byte
    exact ⟨outcome, reply⟩
  · intro noPoke ended
    exact nextWord_eq_zero_iff.mp (atEnd_after fetched noPoke (status_eq_halted_iff.mp ended))

/-- A program waits for a key and then comes to its end.  While it waits, a step changes nothing,
and the key that goes down ends the wait.  At its end it stands on two zero bytes, which no key can
change; a reset makes it ready again. -/
theorem key_wait_then_end :
    let operations : List Operation :=
      [.load [0xF1, 0x0A, 0x00, 0x00], .step 0, .step 0, .clock, .keyDown 3, .step 0]
    let waiting := powerOn.after (operations.take 4)
    let m := powerOn.after operations
    (∀ operation ∈ operations, operation.isDirect = false) ∧
    waiting.status = .awaitingInput ∧
    (waiting.apply (.keyDown 3)).state.status ≠ .awaitingInput ∧
    m.status = .halted ∧ m.pc.toNat < 4095 ∧ m.memory.byte m.pc.toNat = 0 ∧
    (m.apply (.keyDown 5)).state.status = .halted ∧
    (m.apply (.reset false)).state.status ≠ .halted := by
  intro operations waiting m
  have fetched : ∀ operation ∈ operations, operation.isDirect = false := by decide
  obtain ⟨waits, ended⟩ : waiting.status = .awaitingInput ∧ m.status = .halted := by
    decide +kernel
  obtain ⟨-, cycle, -, zero⟩ := status_follows_life_cycle operations fetched
  obtain ⟨-, wait, -, -⟩ := status_follows_life_cycle (operations.take 4) (by decide)
  obtain ⟨inside, upper, -⟩ := zero (by decide) ended
  have key := ((cycle (.keyDown 5) rfl).leaves_end_iff ended).not.mpr nofun
  have restart := ((cycle (.reset false) rfl).leaves_end_iff ended).mpr rfl
  have answered := ((wait (.keyDown 3) rfl).leaves_wait_iff waits).mpr (.inr ⟨3, rfl⟩)
  exact ⟨fetched, waits, answered, ended, inside, upper, not_not.mp key, restart⟩

end Chip8.Machine
