import Chip8.Machine.History
import Chip8.Proofs.Cycle
import Chip8.Proofs.Decoding
import Chip8.Proofs.Effects

/-!
# Faults

A step fails for one of five causes: there is no word at the program counter, `00EE` finds no
return address, or one of the families `DXYN`, `FX33` and `FX55`/`FX65` would leave the memory.
Each cause is a condition on the state before the step, and it determines the error.

Since the random byte is not among what the causes speak of, and since a step that fails leaves
the state as it was, a machine that fails once fails in the same way at every further step.

## Main definitions

* `Machine.Refused` — the causes for which a word fails, each with its error
* `Machine.Faults` — the causes for which a step fails
* `Machine.InBounds` — the sums and places that no instruction checks, and their bounds

## Main statements

* `execute_eq_error_iff`, `step_eq_error_iff` — exactly the causes lead to errors
* `failure_changes_nothing` — a failure leaves the state as it was and repeats itself
* `step_fault_law` — when a step fails, and with which error; nothing else goes out of bounds
-/

namespace Chip8.Machine

/-! ## Causes -/

/-- The causes for which the word `w` fails, with the error of each. -/
inductive Refused (m : Machine) (w : Word) : Error → Prop
  /-- `00EE` without a return address. -/
  | underflow (word : w = 0x00EE) (empty : m.stack = []) : Refused m w .stackUnderflow
  /-- `DXYN` with a sprite that leaves the memory; one without rows may stand right behind it. -/
  | sprite (word : w &&& 0xF000 = 0xD000) (outside : 4096 < m.index.toNat + w.n) :
      Refused m w (.memoryFault (max m.index.toNat 4096))
  /-- `FX33` with three digits that leave the memory. -/
  | digits (word : w &&& 0xF0FF = 0xF033) (outside : 4096 < m.index.toNat + 3) :
      Refused m w (.memoryFault (max m.index.toNat 4096))
  /-- `FX55` or `FX65` with a block that leaves the memory. -/
  | block (word : w &&& 0xF0FF = 0xF055 ∨ w &&& 0xF0FF = 0xF065)
      (outside : 4096 < m.index.toNat + w.x.val + 1) :
      Refused m w (.memoryFault (max m.index.toNat 4096))

/-- The causes for which a step fails, with the error of each. -/
inductive Faults (m : Machine) : Error → Prop
  /-- The word at the program counter leaves the memory. -/
  | fetch (outside : 4095 ≤ m.pc.toNat) : Faults m (.memoryFault (max m.pc.toNat 4096))
  /-- The word at the program counter fails. -/
  | word {e : Error} (inside : m.pc.toNat < 4095) (refused : m.Refused m.wordAhead e) : Faults m e

variable {m : Machine} {w : Word} {byte : UInt8} {e : Error}

/-- The causes are those of the instructions, with the families written out as words. -/
theorem refused_iff :
    m.Refused w e ↔ ∃ opcode, Opcode.decode w = some opcode ∧ m.refusal opcode w = some e := by
  constructor
  · intro refused
    cases refused with
    | underflow word empty =>
        exact ⟨.subroutineReturn, (Opcode.decode_subroutineReturn_iff w).mpr word, if_pos empty⟩
    | sprite word outside =>
        exact ⟨.draw, (Opcode.decode_draw_iff w).mpr word,
          rangeRefusal_eq_some_iff.mpr ⟨outside, rfl⟩⟩
    | digits word outside =>
        exact ⟨.binaryCodedDecimal, (Opcode.decode_binaryCodedDecimal_iff w).mpr word,
          rangeRefusal_eq_some_iff.mpr ⟨outside, rfl⟩⟩
    | block word outside =>
        have refusal := rangeRefusal_eq_some_iff.mpr
          (⟨outside, rfl⟩ : Memory.size < m.index.toNat + transferCount w ∧ _)
        rcases word with stored | loaded
        · exact ⟨.store, (Opcode.decode_store_iff w).mpr stored, refusal⟩
        · exact ⟨.load, (Opcode.decode_load_iff w).mpr loaded, refusal⟩
  · rintro ⟨opcode, family, refusal⟩
    cases opcode with
    | subroutineReturn =>
        rw [Machine.refusal, ite_eq_iff] at refusal
        obtain ⟨empty, cause⟩ | ⟨-, cause⟩ := refusal
        · cases cause
          exact .underflow ((Opcode.decode_subroutineReturn_iff w).mp family) empty
        · cases cause
    | draw =>
        obtain ⟨outside, rfl⟩ := rangeRefusal_eq_some_iff.mp refusal
        exact .sprite ((Opcode.decode_draw_iff w).mp family) outside
    | binaryCodedDecimal =>
        obtain ⟨outside, rfl⟩ := rangeRefusal_eq_some_iff.mp refusal
        exact .digits ((Opcode.decode_binaryCodedDecimal_iff w).mp family) outside
    | store =>
        obtain ⟨outside, rfl⟩ := rangeRefusal_eq_some_iff.mp refusal
        exact .block (.inl ((Opcode.decode_store_iff w).mp family)) outside
    | load =>
        obtain ⟨outside, rfl⟩ := rangeRefusal_eq_some_iff.mp refusal
        exact .block (.inr ((Opcode.decode_load_iff w).mp family)) outside
    | _ => cases refusal

/-- A word fails exactly for its causes. -/
theorem execute_eq_error_iff : (m.execute w byte).result = .error e ↔ m.Refused w e := by
  rw [refused_iff]
  cases family : Opcode.decode w with
  | none => simp [execute_of_unknown family]
  | some opcode =>
      cases effect : m.perform opcode w byte with
      | ok done next =>
          have accepted := refusal_eq_none_of_ok effect
          simp [execute_of_ok family effect, accepted]
      | error cause left =>
          have refusal := (perform_eq_error_iff.mp effect).1
          simp [execute_of_error family effect, refusal]

/-- A word that fails leaves the state as it was. -/
theorem execute_error_state (failed : (m.execute w byte).result = .error e) :
    (m.execute w byte).state = m := by
  obtain ⟨opcode, family, refusal⟩ := refused_iff.mp (execute_eq_error_iff.mp failed)
  rw [execute_of_error family (perform_of_refusal refusal byte)]

/-! ## Steps -/

/-- Where a word can be fetched, the step fails for the causes of the word. -/
theorem faults_iff_of_fetch (fetch : m.nextWord = .ok w) : m.Faults e ↔ m.Refused w e := by
  obtain ⟨inside, rfl⟩ := nextWord_eq_ok_iff.mp fetch
  constructor
  · intro faults
    cases faults with
    | fetch outside => exact absurd inside (Nat.not_lt_of_le outside)
    | word _ refused => exact refused
  · exact .word inside

theorem faults_iff_of_unfetched {cause : Error} (fetch : m.nextWord = .error cause) :
    m.Faults e ↔ cause = e := by
  have outside : 4095 ≤ m.pc.toNat := by
    by_contra inside
    rw [nextWord_of_lt (by omega)] at fetch
    cases fetch
  rw [nextWord_of_le outside, Except.error.injEq] at fetch
  subst fetch
  constructor
  · intro faults
    cases faults with
    | fetch _ => rfl
    | word inside _ => omega
  · rintro rfl
    exact .fetch outside

/-- The zero word fails for no cause. -/
theorem not_refused_zero : ¬ m.Refused 0 e := by
  intro refused
  cases refused with
  | underflow word _ => exact absurd word (by decide)
  | sprite word _ => exact absurd word (by decide)
  | digits word _ => exact absurd word (by decide)
  | block word _ => exact absurd word (by decide)

/-- A step fails exactly if the machine would go on and there is a cause. -/
theorem step_eq_error_iff : (m.step byte).result = .error e ↔ m.Ready ∧ m.Faults e := by
  cases m.cycle byte with
  | halted before reply => simp [reply, not_ready_of_halted before]
  | waiting target running awaited reply => simp [reply, not_ready_of_awaiting awaited]
  | unfetched cause ready fetch reply =>
      simp [reply, ready, faults_iff_of_unfetched fetch]
  | ended ready fetch reply =>
      simp [reply, faults_iff_of_fetch fetch, not_refused_zero]
  | unknown w ready fetch nonzero family reply =>
      simp [reply, faults_iff_of_fetch fetch, refused_iff, family]
  | executed w opcode next ready fetch nonzero family effect reply =>
      have accepted := refusal_eq_none_of_ok effect
      rw [refusal_moved] at accepted
      simp [reply, faults_iff_of_fetch fetch, refused_iff, family, accepted]
  | refused w opcode cause left ready fetch nonzero family effect reply =>
      obtain ⟨refusal, -⟩ := perform_eq_error_iff.mp effect
      rw [refusal_moved] at refusal
      simp [reply, ready, faults_iff_of_fetch fetch, refused_iff, family, refusal]

/-- A step that fails leaves the state as it was, the program counter included. -/
theorem step_error_state (failed : (m.step byte).result = .error e) :
    (m.step byte).state = m := by
  cases m.cycle byte with
  | halted before reply | waiting _ _ before reply => rw [reply]
  | unfetched cause ready fetch reply => rw [reply]
  | ended ready fetch reply => simp [reply] at failed
  | unknown w ready fetch nonzero family reply => simp [reply] at failed
  | executed w opcode next ready fetch nonzero family effect reply => simp [reply] at failed
  | refused w opcode cause left ready fetch nonzero family effect reply =>
      obtain ⟨-, unchanged⟩ := perform_eq_error_iff.mp effect
      rw [reply, unchanged]

/-- After a failure every further step fails in the same way, whatever random bytes it gets. -/
theorem history_of_failed (failed : (m.step byte).result = .error e) (bytes : List UInt8) :
    ∀ moment ∈ m.history (bytes.map .step),
      moment.result = some (.error e) ∧ moment.after = m := by
  induction bytes with
  | nil => simp [history]
  | cons first rest ih =>
      -- the causes do not speak of the random byte
      have again : (m.step first).result = .error e :=
        step_eq_error_iff.mpr (step_eq_error_iff.mp failed)
      have unchanged : (m.apply (.step first)).state = m := step_error_state again
      intro moment mem
      rw [List.map_cons, history, unchanged, List.mem_cons] at mem
      rcases mem with rfl | later
      · exact ⟨congrArg some again, unchanged⟩
      · exact ih moment later

/-- **A failure changes nothing and repeats itself.**  If a step fails, the whole state is the one
before, and so all further steps fail with the same error and change nothing either.  If a word
that was not fetched fails, the whole state is the one before as well. -/
theorem failure_changes_nothing (m : Machine) (byte : UInt8) :
    (∀ e, (m.step byte).result = .error e →
      (m.step byte).state = m ∧
      ∀ bytes : List UInt8, ∀ moment ∈ (m.step byte).state.history (bytes.map .step),
        moment.result = some (.error e) ∧ moment.after = m) ∧
    ∀ w e, (m.execute w byte).result = .error e → (m.execute w byte).state = m := by
  constructor
  · intro e failed
    have unchanged := step_error_state failed
    refine ⟨unchanged, fun bytes => ?_⟩
    rw [unchanged]
    exact history_of_failed failed bytes
  · intro w e failed
    exact execute_error_state failed

/-- A block of which only the first two bytes fit into the memory is not stored in part, and a
return without a call changes nothing either. -/
theorem overlong_store_changes_nothing :
    let m : Machine := { powerOn.poke 512 [0xF5, 0x55] with index := 0xFFE }
    ((m.step 0).state = m ∧
      ∀ bytes : List UInt8, ∀ moment ∈ (m.step 0).state.history (bytes.map .step),
        moment.result = some (.error (.memoryFault 4096)) ∧ moment.after = m) ∧
    (m.execute 0x00EE 0).state = m := by
  intro m
  have stored : (m.step 0).result = .error (.memoryFault 4096) := by decide +kernel
  have returned : (m.execute 0x00EE 0).result = .error .stackUnderflow := by decide +kernel
  exact ⟨(failure_changes_nothing m 0).1 _ stored, (failure_changes_nothing m 0).2 _ _ returned⟩

/-! ## Sums and places without a check -/

/-- The sums that the word `w` forms without a check stay within their types, and the cells that
it names without a check exist. -/
structure InBounds (m : Machine) (w : Word) : Prop where
  /-- `BNNN` continues at the true sum of `NNN` and `V0`. -/
  jump : ∀ byte, ∃ next, m.perform .jumpWithOffset w byte = .ok () next ∧
    next.pc.toNat = w.nnn.toNat + (m.registers.read 0).toNat
  /-- `FX29` points at the true address of a digit, and all five rows of it are in the font. -/
  glyph : ∀ byte, ∃ next, m.perform .fontChar w byte = .ok () next ∧
    next.index.toNat = (m.vx w).toNat % 16 * 5 ∧ next.index.toNat + 5 ≤ Memory.font.length
  /-- `DXYN` forms coordinates that are little larger than a byte, and those on the grid belong to
  one of the pixels. -/
  pixel : ∀ x y, (x, y) ∈ Sprite.cells (m.vx w).toNat (m.vy w).toNat (m.bytesAtIndex w.n) →
    x ≤ 255 + 7 ∧ y ≤ 255 + 14 ∧ (Screen.OnGrid x y → y * Screen.width + x < 2048)
  /-- An instruction that does not fail accesses bytes of the memory only. -/
  byte : ∀ opcode byte next, m.perform opcode w byte = .ok () next →
    ∀ i < accessLength opcode w, m.index.toNat + i < Memory.size
  /-- `FX55` and `FX65` name existing registers, and advance the index to the true sum. -/
  block : ∀ opcode byte next, opcode = .store ∨ opcode = .load →
    m.perform opcode w byte = .ok () next → transferCount w ≤ 16 ∧
      (m.mode = .chip8 → next.index.toNat = m.index.toNat + transferCount w)

/-- After a block transfer that did not fail the index is at most behind the memory. -/
theorem toNat_nextIndex {count : Nat} (accepted : m.rangeRefusal count = none)
    (mode : m.mode = .chip8) : (m.nextIndex count).toNat = m.index.toNat + count := by
  have inside := rangeRefusal_eq_none_iff.mp accepted
  simp only [Memory.size] at inside
  simp only [nextIndex, mode, UInt16.toNat_add, UInt16.toNat_ofNat']
  omega

theorem toNat_nnn_add (w : Word) (offset : UInt8) :
    (w.nnn + offset.toUInt16).toNat = w.nnn.toNat + offset.toNat := by
  have := offset.toNat_lt
  simp only [UInt16.toNat_add, Word.toNat_nnn, UInt8.toNat_toUInt16]
  omega

theorem inBounds (m : Machine) (w : Word) : m.InBounds w where
  jump byte := ⟨_, rfl, toNat_nnn_add w _⟩
  glyph byte := by
    refine ⟨_, rfl, ?_⟩
    -- sixteen glyphs of five bytes end at 80, far below the range of an address
    have address : (UInt16.ofNat (Memory.glyphAddress ((m.vx w).toNat % 16))).toNat =
        (m.vx w).toNat % 16 * 5 := by
      simp only [Memory.glyphAddress, Memory.glyphHeight, UInt16.toNat_ofNat']
      omega
    rw [address, Memory.length_font]
    exact ⟨rfl, by omega⟩
  pixel x y mem := by
    obtain ⟨i, row, column, here, set, rfl, rfl⟩ := Sprite.mem_cells_iff.mp mem
    have inRow : column < 8 := by
      simp only [Sprite.bit, Bool.and_eq_true, decide_eq_true_eq] at set
      exact set.1
    have inSprite : i < w.n := by
      have := (List.getElem?_eq_some_iff.mp here).1
      simpa [bytesAtIndex] using this
    have := w.n_lt
    have := (m.vx w).toNat_lt
    have := (m.vy w).toNat_lt
    exact ⟨by omega, by omega, Screen.place_lt⟩
  byte opcode byte next effect i h := access_of_accepted (refusal_eq_none_of_ok effect) h
  block opcode byte next transfer effect := by
    have registers : transferCount w ≤ 16 := w.x.isLt
    have accepted := refusal_eq_none_of_ok effect
    refine ⟨registers, fun mode => ?_⟩
    rcases transfer with rfl | rfl
    · rw [perform, storeBlock_of_accepted accepted] at effect
      cases effect
      exact toNat_nextIndex accepted mode
    · rw [perform, loadBlock_of_accepted accepted] at effect
      cases effect
      exact toNat_nextIndex accepted mode

/-- **The fault law.**  A step fails if and only if the machine has not come to its end, waits for
no key, and there is a cause; the error is the one of the cause.  The other two errors never come
out of a step, and nothing that an instruction does without a check goes out of bounds. -/
theorem step_fault_law (m : Machine) (byte : UInt8) :
    (∀ e, (m.step byte).result = .error e ↔
      m.halted = false ∧ m.awaiting = none ∧ m.Faults e) ∧
    (∀ key, (m.step byte).result ≠ .error (.invalidKey key)) ∧
    (∀ path, (m.step byte).result ≠ .error (.loadFailure path)) ∧
    ∀ w, m.InBounds w := by
  have law (e : Error) : (m.step byte).result = .error e ↔
      m.halted = false ∧ m.awaiting = none ∧ m.Faults e := by
    rw [step_eq_error_iff, ← and_assoc]
    exact and_congr_left' ⟨fun ready => ⟨ready.running, ready.free⟩, fun h => ⟨h.1, h.2⟩⟩
  refine ⟨law, fun key failed => ?_, fun path failed => ?_, m.inBounds⟩
  · obtain ⟨-, -, faults⟩ := (law _).mp failed
    rcases faults with _ | ⟨-, refused⟩
    cases refused
  · obtain ⟨-, -, faults⟩ := (law _).mp failed
    rcases faults with _ | ⟨-, refused⟩
    cases refused

end Chip8.Machine
