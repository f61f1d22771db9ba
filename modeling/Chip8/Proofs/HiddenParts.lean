import Chip8.Proofs.Drawing
import Chip8.Proofs.Keys
import Chip8.Proofs.Lockstep
import Chip8.Proofs.NextAddress
import Mathlib.Data.Set.Basic

/-!
# Hidden parts

Four parts of the state are read by few instructions.  `FX07` reads the delay timer, `EX9E` and
`EXA1` ask for one held key, and `DXYN` tells in `VF` whether the sprite met a lit pixel.  Nothing
reads the sound timer.  So if two machines agree on everything else, their steps have the same
outcomes, and a difference in these parts stays where it is until one of these instructions reads
it.  The family of the instruction is not enough for that: the timers must differ, `VX` must name a
key that is held in one machine only, or the sprite must meet a lit pixel on one screen only.

## Main definitions

* `Machine.Part` — the four parts
* `Machine.SameBut` — two states that agree on everything outside a set of parts
* `Machine.ShowsTimer`, `Machine.ShowsKey`, `Machine.ShowsPixel` — a word that reads a difference
* `Machine.Reads` — the same of an instruction, by its family
* `Machine.Exposes` — an operation that executes such a word

## Main statements

* `sameBut_performed_iff` — an instruction keeps the difference hidden exactly if it reads none
* `SameBut.apply`, `SameBut.not_apply`, `SameBut.apply_but_flag` — the same of every operation, and
  what a sprite can spread
* `hidden_parts_show_only_where_read` — and of every run
-/

namespace Chip8

/-- An instruction of the family reads a part of the state that may be hidden. -/
def Opcode.readsPart : Opcode → Bool
  | .setVxFromTimer | .skipIfKeyPressed | .skipIfKeyNotPressed | .draw => true
  | _ => false

namespace Machine

/-- A part of the state that few instructions read. -/
inductive Part where
  | delayTimer
  | soundTimer
  | heldKeys
  | screen

/-- The two states agree on everything but the parts of `hidden`. -/
structure SameBut (hidden : Set Part) (m n : Machine) : Prop extends InStep m n where
  registers : n.registers = m.registers
  mode : n.mode = m.mode
  delayTimer : .delayTimer ∉ hidden → n.delayTimer = m.delayTimer
  soundTimer : .soundTimer ∉ hidden → n.soundTimer = m.soundTimer
  heldKeys : .heldKeys ∉ hidden → n.keypad.held = m.keypad.held
  screen : .screen ∉ hidden → n.screen = m.screen

/-- The state with the four parts of `n`. -/
def withPartsOf (m n : Machine) : Machine :=
  { m with
    delayTimer := n.delayTimer
    soundTimer := n.soundTimer
    keypad := { m.keypad with held := n.keypad.held }
    screen := n.screen }

variable {hidden : Set Part} {m n : Machine} {w : Word} {opcode : Opcode} {byte : UInt8}

namespace SameBut

/-- The four parts are all that the states may differ in. -/
theorem eq_withPartsOf (same : m.SameBut hidden n) : n = m.withPartsOf n := by
  obtain ⟨⟨memory, pc, index, stack, awaiting, halted⟩, registers, mode, -, -, -, -⟩ := same
  have keypad : n.keypad = { m.keypad with held := n.keypad.held } :=
    Keypad.eq_of_isHeld (fun _ => rfl) awaiting
  rw [withPartsOf, ← memory, ← pc, ← index, ← stack, ← halted, ← registers, ← mode, ← keypad]

theorem moved (same : m.SameBut hidden n) (pc : UInt16) :
    { m with pc := pc }.SameBut hidden { n with pc := pc } :=
  { same with pc := rfl }

theorem setRegister (same : m.SameBut hidden n) (r : Register) (value : UInt8) :
    (m.setRegister r value).SameBut hidden (n.setRegister r value) :=
  { same with registers := congrArg (·.write r value) same.registers }

theorem mapMemory (same : m.SameBut hidden n) (f : Memory → Memory) :
    { m with memory := f m.memory }.SameBut hidden { n with memory := f n.memory } :=
  { same with memory := congrArg f same.memory }

theorem skipWhen (same : m.SameBut hidden n) (condition : Bool) :
    (m.skipWhen condition).SameBut hidden (n.skipWhen condition) := by
  cases condition with
  | true => exact { same with pc := congrArg (· + 2) same.pc }
  | false => exact same

end SameBut

/-! ## Instructions that read a part -/

/-- The sprite at the index meets a lit pixel where `w` draws it. -/
def Meets (m : Machine) (w : Word) : Prop :=
  ∃ px py, px < 64 ∧ py < 32 ∧ m.screen.pixel px py = true ∧
    Sprite.covers (m.vx w).toNat (m.vy w).toNat (m.bytesAtIndex w.n) px py = true

/-- `FX07`, while the delay timers differ. -/
def ShowsTimer (m n : Machine) (w : Word) : Prop :=
  w &&& 0xF0FF = 0xF007 ∧ m.delayTimer ≠ n.delayTimer

/-- `EX9E` or `EXA1`, while `VX` names a key that is held in one state and not in the other. -/
def ShowsKey (m n : Machine) (w : Word) : Prop :=
  (w &&& 0xF0FF = 0xE09E ∨ w &&& 0xF0FF = 0xE0A1) ∧
    ∃ k : Key, k.val = (m.vx w).toNat ∧ m.keypad.isHeld k ≠ n.keypad.isHeld k

/-- `DXYN` that does not fail, with a sprite that meets a lit pixel on one screen only. -/
def ShowsPixel (m n : Machine) (w : Word) : Prop :=
  w &&& 0xF000 = 0xD000 ∧ m.index.toNat + w.n ≤ 4096 ∧ ¬ (m.Meets w ↔ n.Meets w)

/-- The word `w` reads a difference between the two states. -/
def Shows (m n : Machine) (w : Word) : Prop :=
  m.ShowsTimer n w ∨ m.ShowsKey n w ∨ m.ShowsPixel n w

/-- What an instruction reads of the parts differs between the two states. -/
def Reads (m n : Machine) (w : Word) : Opcode → Prop
  | .setVxFromTimer => m.delayTimer ≠ n.delayTimer
  | .skipIfKeyPressed | .skipIfKeyNotPressed =>
    ¬ (m.HoldsKey (m.vx w) ↔ n.HoldsKey (m.vx w))
  | .draw => ¬ (m.Meets w ↔ n.Meets w)
  | _ => False

/-- An instruction that reads no part does the same whatever they are. -/
theorem SameBut.performed (same : m.SameBut hidden n) (blind : opcode.readsPart = false)
    (w : Word) (byte : UInt8) :
    (m.performed opcode w byte).SameBut hidden (n.performed opcode w byte) := by
  obtain ⟨parts, rfl⟩ : ∃ parts, n = m.withPartsOf parts := ⟨n, same.eq_withPartsOf⟩
  cases opcode with
  | setVxFromTimer | skipIfKeyPressed | skipIfKeyNotPressed | draw => cases blind
  | clearScreen => exact { same with screen := fun _ => rfl }
  | setDelayTimer => exact { same with delayTimer := fun _ => rfl }
  | setSoundTimer => exact { same with soundTimer := fun _ => rfl }
  | skipEqX | skipNeqX | skipXEqY | skipXNeqY => exact same.skipWhen _
  | _ =>
      exact ⟨⟨rfl, rfl, rfl, rfl, rfl, rfl⟩, rfl, rfl, same.delayTimer, same.soundTimer,
        same.heldKeys, same.screen⟩

/-- The collision of a sprite. -/
theorem draw_hit_iff (m : Machine) (w : Word) :
    (m.screen.draw (m.vx w).toNat (m.vy w).toNat (m.bytesAtIndex w.n)).2 = true ↔ m.Meets w :=
  (Screen.draw_overlaid _ _ _ _).collision

/-- Where a skip goes tells its condition. -/
theorem skipWhen_pc_inj (same : n.pc = m.pc) {c d : Bool}
    (target : (n.skipWhen d).pc = (m.skipWhen c).pc) : d = c := by
  have apart : m.pc + 2 ≠ m.pc := by
    intro stays
    have := congrArg UInt16.toNat stays
    simp only [UInt16.toNat_add, UInt16.reduceToNat] at this
    omega
  cases c with
  | true =>
      cases d with
      | true => rfl
      | false => exact absurd (target.symm.trans same) apart
  | false =>
      cases d with
      | true => exact absurd ((congrArg (· + 2) same).symm.trans target) apart
      | false => rfl

theorem SameBut.vx (same : m.SameBut hidden n) (w : Word) : n.vx w = m.vx w := by
  rw [Machine.vx, Machine.vx, same.registers]

/-- Two skips that ask for a key leave the difference hidden exactly if they agree. -/
theorem sameBut_skipWhen_iff (same : m.SameBut hidden n) {c d : Bool} :
    (m.skipWhen c).SameBut hidden (n.skipWhen d) ↔ d = c := by
  constructor
  · exact fun after => skipWhen_pc_inj same.pc after.pc
  · rintro rfl
    exact same.skipWhen d

theorem flagByte_inj : ∀ {c d : Bool}, flagByte c = flagByte d → c = d := by
  decide

/-- Apart from the registers, a sprite leaves the difference where it was. -/
theorem SameBut.drawn (same : m.SameBut hidden n) (w : Word) (byte : UInt8) (rs : Registers) :
    { m.performed .draw w byte with registers := rs }.SameBut hidden
      { n.performed .draw w byte with registers := rs } := by
  obtain ⟨parts, rfl⟩ : ∃ parts, n = m.withPartsOf parts := ⟨n, same.eq_withPartsOf⟩
  let drawn (s : Screen) : Screen :=
    (s.draw (m.vx w).toNat (m.vy w).toNat (m.bytesAtIndex w.n)).1
  exact { same with
    registers := rfl
    screen := fun visible => congrArg drawn (same.screen visible) }

/-- So it leaves the flag at most besides. -/
theorem SameBut.drawn_but_flag (same : m.SameBut hidden n) (w : Word) (byte value : UInt8) :
    ((m.performed .draw w byte).setRegister Register.flag value).SameBut hidden
      ((n.performed .draw w byte).setRegister Register.flag value) := by
  have flagged (s : Machine) : (s.performed .draw w byte).setRegister Register.flag value =
      { s.performed .draw w byte with
        registers := s.registers.write Register.flag value } := by
    rw [Machine.setRegister, Machine.performed, Registers.write_write]
  rw [flagged m, flagged n, same.registers]
  exact same.drawn w byte _

/-- A sprite leaves the difference hidden exactly if it meets a lit pixel on both screens or on
none. -/
theorem sameBut_drawn_iff (same : m.SameBut hidden n) :
    (m.performed .draw w byte).SameBut hidden (n.performed .draw w byte) ↔
      (m.Meets w ↔ n.Meets w) := by
  have hits : (n.screen.draw (n.vx w).toNat (n.vy w).toNat (n.bytesAtIndex w.n)).2 =
      (m.screen.draw (m.vx w).toNat (m.vy w).toNat (m.bytesAtIndex w.n)).2 ↔
      (m.Meets w ↔ n.Meets w) := by
    rw [Bool.eq_iff_iff, draw_hit_iff, draw_hit_iff]
    exact iff_comm
  rw [← hits]
  constructor
  · intro after
    have read := congrArg (·.read Register.flag) after.registers
    simp only [performed, Registers.read_write_self] at read
    exact flagByte_inj read
  · intro agree
    have registers : (n.performed .draw w byte).registers =
        (m.performed .draw w byte).registers := by
      simp only [performed, agree, same.registers]
    have whole : { n.performed .draw w byte with
        registers := (m.performed .draw w byte).registers } = n.performed .draw w byte := by
      rw [← registers]
    rw [← whole]
    exact same.drawn w byte _

/-- An instruction keeps the difference hidden exactly if it reads none. -/
theorem sameBut_performed_iff (same : m.SameBut hidden n) :
    (m.performed opcode w byte).SameBut hidden (n.performed opcode w byte) ↔
      ¬ m.Reads n w opcode := by
  have held : (n.numbersHeldKey (n.vx w) = m.numbersHeldKey (m.vx w)) ↔
      (m.HoldsKey (m.vx w) ↔ n.HoldsKey (m.vx w)) := by
    rw [same.vx, Bool.eq_iff_iff, numbersHeldKey_iff, numbersHeldKey_iff]
    exact iff_comm
  cases opcode with
  | setVxFromTimer =>
      constructor
      · intro after differs
        have read := congrArg (·.read w.x) after.registers
        simp only [performed, perform, writeX, Registers.read_write_self] at read
        exact differs read.symm
      · intro agree
        have registers : n.registers.write w.x n.delayTimer =
            m.registers.write w.x m.delayTimer := by
          rw [same.registers, not_not.mp agree]
        exact { same with registers := registers }
  | skipIfKeyPressed =>
      rw [Reads, not_not, ← held]
      exact sameBut_skipWhen_iff same
  | skipIfKeyNotPressed =>
      rw [Reads, not_not, ← held, ← Bool.not_inj_iff]
      exact sameBut_skipWhen_iff same
  | draw =>
      rw [Reads, not_not]
      exact sameBut_drawn_iff same
  | _ => exact iff_of_true (same.performed rfl w byte) not_false

/-! ## Words that show a difference -/

/-- A byte names a held key in one state only if it names a key on which they differ. -/
theorem not_holdsKey_iff_iff (m n : Machine) (number : UInt8) :
    ¬ (m.HoldsKey number ↔ n.HoldsKey number) ↔
      ∃ k : Key, k.val = number.toNat ∧ m.keypad.isHeld k ≠ n.keypad.isHeld k := by
  constructor
  · intro differ
    by_contra none
    push Not at none
    refine differ (exists_congr fun k => and_congr_right fun named => ?_)
    rw [none k named]
  · rintro ⟨k, named, differs⟩ agree
    have isHeld (s : Machine) : s.HoldsKey number ↔ s.keypad.isHeld k = true := by
      constructor
      · rintro ⟨l, same, held⟩
        rwa [← (Fin.ext (same.trans named.symm) : l = k)]
      · exact fun held => ⟨k, named, held⟩
    rw [isHeld m, isHeld n, ← Bool.eq_iff_iff] at agree
    exact differs agree

/-- A word that shows a difference is an instruction that takes effect and reads it. -/
theorem exists_reads_of_shows (shows : m.Shows n w) :
    ∃ opcode, opcode ≠ .machineRoutine ∧ Opcode.decode w = some opcode ∧
      m.refusal opcode w = none ∧ m.Reads n w opcode := by
  obtain ⟨word, differs⟩ | ⟨word | word, key⟩ | ⟨word, inside, differs⟩ := shows
  · exact ⟨.setVxFromTimer, by decide, (Opcode.decode_iff_matches (by decide) w).mpr word, rfl,
      differs⟩
  · exact ⟨.skipIfKeyPressed, by decide, (Opcode.decode_iff_matches (by decide) w).mpr word, rfl,
      (not_holdsKey_iff_iff m n _).mpr key⟩
  · exact ⟨.skipIfKeyNotPressed, by decide, (Opcode.decode_iff_matches (by decide) w).mpr word, rfl,
      (not_holdsKey_iff_iff m n _).mpr key⟩
  · exact ⟨.draw, by decide, (Opcode.decode_draw_iff w).mpr word,
      rangeRefusal_eq_none_iff.mpr inside, differs⟩

theorem shows_of_reads (family : Opcode.decode w = some opcode)
    (accepted : m.refusal opcode w = none) (reads : m.Reads n w opcode) : m.Shows n w := by
  cases opcode with
  | setVxFromTimer => exact .inl ⟨(Opcode.decode_iff_matches (by decide) w).mp family, reads⟩
  | skipIfKeyPressed =>
      have word := (Opcode.decode_iff_matches (by decide) w).mp family
      exact .inr (.inl ⟨.inl word, (not_holdsKey_iff_iff m n _).mp reads⟩)
  | skipIfKeyNotPressed =>
      have word := (Opcode.decode_iff_matches (by decide) w).mp family
      exact .inr (.inl ⟨.inr word, (not_holdsKey_iff_iff m n _).mp reads⟩)
  | draw =>
      have inside := rangeRefusal_eq_none_iff.mp accepted
      exact .inr (.inr ⟨(Opcode.decode_draw_iff w).mp family, inside, reads⟩)
  | _ => exact reads.elim

/-! ## Operations -/

/-- The operation executes a word that reads a difference between the two states. -/
def Exposes (m n : Machine) (operation : Operation) : Prop :=
  ∃ w, m.Runs operation w ∧ m.Shows n w

variable {operation : Operation}

/-- What an operation does that executes an instruction, in both states. -/
theorem SameBut.apply_of_runs (same : m.SameBut hidden n) (runs : m.Runs operation w)
    (own : opcode ≠ .machineRoutine) (family : Opcode.decode w = some opcode)
    (accepted : m.refusal opcode w = none) :
    ∃ pc byte, (m.apply operation).state = { m with pc := pc }.performed opcode w byte ∧
      (n.apply operation).state = { n with pc := pc }.performed opcode w byte := by
  have also : n.refusal opcode w = none := (same.refusal opcode w).trans accepted
  cases runs with
  | step ready fetch byte =>
      have nonzero := Opcode.ne_zero_of_decode own family
      have fetched := same.nextWord.trans fetch
      refine ⟨m.pc + 2, byte, ?_, ?_⟩
      · rw [apply, step_of_accepted ready fetch nonzero family accepted]
      · rw [apply, step_of_accepted (same.ready ready) fetched nonzero family also, same.pc]
  | execute w byte =>
      refine ⟨m.pc, byte, ?_, ?_⟩
      · rw [apply, execute_of_accepted family accepted]
      · rw [apply, execute_of_accepted family also, ← same.pc]

/-- An operation that exposes a difference spreads it. -/
theorem SameBut.not_apply (same : m.SameBut hidden n) (exposes : m.Exposes n operation) :
    ¬ (m.apply operation).state.SameBut hidden (n.apply operation).state := by
  obtain ⟨w, runs, shows⟩ := exposes
  obtain ⟨opcode, own, family, accepted, reads⟩ := exists_reads_of_shows shows
  obtain ⟨pc, byte, left, right⟩ := same.apply_of_runs runs own family accepted
  rw [left, right, sameBut_performed_iff (same.moved pc), not_not]
  exact reads

/-- The operation has the same result in both states. -/
theorem SameBut.apply_result (same : m.SameBut hidden n) (operation : Operation) :
    (m.apply operation).result = (n.apply operation).result := by
  cases operation with
  | step byte => exact congrArg some (same.result byte).symm
  | execute w byte => exact congrArg some (same.execute_result w byte).symm
  | _ => rfl

/-- A word that is executed and shows no difference leaves it hidden. -/
theorem SameBut.execute (same : m.SameBut hidden n) (hides : ¬ m.Shows n w) (byte : UInt8) :
    (m.execute w byte).state.SameBut hidden (n.execute w byte).state := by
  cases family : Opcode.decode w with
  | none =>
      rw [execute_of_unknown family, execute_of_unknown family]
      exact same
  | some opcode =>
      have also := same.refusal opcode w
      cases refused : m.refusal opcode w with
      | some e =>
          rw [execute_of_refused family refused, execute_of_refused family (also.trans refused)]
          exact same
      | none =>
          have blind : ¬ m.Reads n w opcode := fun reads =>
            hides (shows_of_reads family refused reads)
          rw [execute_of_accepted family refused, execute_of_accepted family (also.trans refused)]
          exact (sameBut_performed_iff same).mpr blind

/-- A step whose word shows no difference leaves it hidden. -/
theorem SameBut.step (same : m.SameBut hidden n) (byte : UInt8)
    (hides : ∀ w, m.Ready → m.nextWord = .ok w → ¬ m.Shows n w) :
    (m.step byte).state.SameBut hidden (n.step byte).state := by
  cases lockstep same.toInStep byte with
  | stayed result log left right =>
      rw [left, right]
      exact same
  | ended left right =>
      rw [left, right]
      exact { same with halted := rfl }
  | passed w left right =>
      rw [left, right, same.pc]
      exact same.moved (m.pc + 2)
  | executed w opcode ready fetch family accepted left right =>
      have blind : ¬ m.Reads n w opcode := fun reads =>
        hides w ready fetch (shows_of_reads family accepted reads)
      rw [left, right, same.pc]
      exact (sameBut_performed_iff (same.moved (m.pc + 2))).mpr blind

theorem SameBut.keyDown (same : m.SameBut hidden n) (k : Key) :
    (m.keyDown k).state.SameBut hidden (n.keyDown k).state := by
  have pressed (visible : .heldKeys ∉ hidden) :
      (n.keypad.press k).2.held = (m.keypad.press k).2.held :=
    congrArg (·.set k.val true) (same.heldKeys visible)
  cases awaited : m.awaiting with
  | none =>
      rw [keyDown_of_awaiting_eq_none awaited,
        keyDown_of_awaiting_eq_none (same.awaiting.trans awaited)]
      exact { same with awaiting := rfl, heldKeys := pressed }
  | some target =>
      rw [keyDown_of_awaiting awaited, keyDown_of_awaiting (same.awaiting.trans awaited)]
      exact { same with
        awaiting := rfl
        heldKeys := pressed
        registers := congrArg (·.write target (Key.index k)) same.registers }

/-- Starting over forgets a difference in the timers and on the screen, but not in the held keys. -/
theorem SameBut.afterReset (same : m.SameBut hidden n) (clearMemory : Bool) :
    (m.afterReset clearMemory).SameBut hidden (n.afterReset clearMemory) where
  memory := by simp only [Machine.afterReset, same.memory]
  pc := rfl
  index := rfl
  stack := rfl
  awaiting := rfl
  halted := rfl
  registers := rfl
  mode := rfl
  delayTimer _ := rfl
  soundTimer _ := rfl
  heldKeys := same.heldKeys
  screen _ := rfl

/-- An operation that exposes no difference leaves it hidden. -/
theorem SameBut.apply (same : m.SameBut hidden n) (hides : ¬ m.Exposes n operation) :
    (m.apply operation).state.SameBut hidden (n.apply operation).state := by
  cases operation with
  | step byte =>
      exact same.step byte fun w ready fetch shows => hides ⟨w, .step ready fetch byte, shows⟩
  | execute w byte => exact same.execute (fun shows => hides ⟨w, .execute w byte, shows⟩) byte
  | clock =>
      exact { same with
        delayTimer := fun visible => congrArg countDown (same.delayTimer visible)
        soundTimer := fun visible => congrArg countDown (same.soundTimer visible) }
  | keyDown k => exact same.keyDown k
  | keyUp k =>
      exact { same with
        heldKeys := fun visible => congrArg (·.set k.val false) (same.heldKeys visible) }
  | setRegister r value => exact same.setRegister r value
  | setMode mode => exact { same with mode := rfl }
  | reset clearMemory => exact same.afterReset clearMemory
  | load image => exact (same.afterReset true).mapMemory (·.withProgram image)
  | poke a bytes => exact same.mapMemory (·.overwrite a bytes)

/-- If neither the delay timer nor a held key is shown, the flag is all that a difference can
reach. -/
theorem SameBut.apply_but_flag (same : m.SameBut hidden n)
    (hides : ∀ w, m.Runs operation w → ¬ m.ShowsTimer n w ∧ ¬ m.ShowsKey n w) (value : UInt8) :
    ((m.apply operation).state.setRegister Register.flag value).SameBut hidden
      ((n.apply operation).state.setRegister Register.flag value) := by
  by_cases exposes : m.Exposes n operation
  · obtain ⟨w, runs, shows⟩ := exposes
    obtain ⟨noTimer, noKey⟩ := hides w runs
    obtain ⟨word, inside, -⟩ := (shows.resolve_left noTimer).resolve_left noKey
    obtain ⟨pc, byte, left, right⟩ := same.apply_of_runs runs (by decide)
      ((Opcode.decode_draw_iff w).mpr word) (rangeRefusal_eq_none_iff.mpr inside)
    rw [left, right]
    exact (same.moved pc).drawn_but_flag w byte value
  · exact (same.apply exposes).setRegister Register.flag value

/-! ## Parts that are not hidden -/

theorem SameBut.not_showsTimer (same : m.SameBut hidden n) (visible : .delayTimer ∉ hidden)
    (w : Word) : ¬ m.ShowsTimer n w :=
  fun shows => shows.2 (same.delayTimer visible).symm

theorem SameBut.not_showsKey (same : m.SameBut hidden n) (visible : .heldKeys ∉ hidden)
    (w : Word) : ¬ m.ShowsKey n w := by
  rintro ⟨-, k, -, differs⟩
  exact differs (congrArg (·.get k) (same.heldKeys visible)).symm

theorem SameBut.not_showsPixel (same : m.SameBut hidden n) (visible : .screen ∉ hidden)
    (w : Word) : ¬ m.ShowsPixel n w := by
  rintro ⟨-, -, differ⟩
  apply differ
  obtain ⟨parts, rfl⟩ : ∃ parts, n = m.withPartsOf parts := ⟨n, same.eq_withPartsOf⟩
  have screen : parts.screen = m.screen := same.screen visible
  simp only [Meets, withPartsOf, screen]
  rfl

/-! ## Runs -/

/-- Of a list with one more in front, the places are the front and those of the rest. -/
theorem forall_split_cons {α : Type} {a : α} {rest : List α} {P : List α → α → Prop} :
    (∀ earlier b later, a :: rest = earlier ++ b :: later → P earlier b) ↔
      P [] a ∧ ∀ earlier b later, rest = earlier ++ b :: later → P (a :: earlier) b := by
  constructor
  · intro all
    refine ⟨all [] a rest rfl, fun earlier b later split => ?_⟩
    exact all (a :: earlier) b later (congrArg (a :: ·) split)
  · rintro ⟨first, others⟩ earlier b later split
    cases earlier with
    | nil =>
        obtain ⟨rfl, -⟩ := List.cons.inj split
        exact first
    | cons c earlier =>
        obtain ⟨rfl, tail⟩ := List.cons.inj split
        exact others earlier b later tail

/-- Two runs stay alike exactly if no operation exposes a difference. -/
theorem SameBut.history_iff (same : m.SameBut hidden n) (operations : List Operation) :
    List.Forall₂ (fun a b => a.result = b.result ∧ a.after.SameBut hidden b.after)
        (m.history operations) (n.history operations) ↔
      ∀ earlier operation later, operations = earlier ++ operation :: later →
        ¬ (m.after earlier).Exposes (n.after earlier) operation := by
  induction operations generalizing m n with
  | nil => simp [history]
  | cons operation rest ih =>
      rw [history, history, List.forall₂_cons, forall_split_cons]
      constructor
      · rintro ⟨⟨-, first⟩, others⟩
        exact ⟨fun exposes => same.not_apply exposes first, (ih first).mp others⟩
      · rintro ⟨hides, others⟩
        have first := same.apply hides
        exact ⟨⟨same.apply_result operation, first⟩, (ih first).mpr others⟩

/-- **A hidden part stays hidden until it is shown.**  Let two machines agree on everything outside
a set of hidden parts.  Whatever is done to both has the same result.  Afterwards they still differ
in hidden parts only, unless a word is executed that shows a difference, and then they do not:
`FX07` shows the delay timer, `EX9E` and `EXA1` show a key that `VX` names, `DXYN` shows whether the
sprite meets a lit pixel, and nothing shows the sound timer.  A sprite can spread the difference to
`VF` and no further.  So two runs have the same results, and leave states that differ in hidden
parts only, exactly if no word in them shows a difference when its turn comes; and a part that is
not hidden is never shown. -/
theorem hidden_parts_show_only_where_read (hidden : Set Part) (m n : Machine)
    (same : m.SameBut hidden n) :
    (∀ operation : Operation,
      (m.apply operation).result = (n.apply operation).result ∧
      ((m.apply operation).state.SameBut hidden (n.apply operation).state ↔
        ¬ m.Exposes n operation) ∧
      ((∀ w, m.Runs operation w → ¬ m.ShowsTimer n w ∧ ¬ m.ShowsKey n w) → ∀ value,
        ((m.apply operation).state.setRegister Register.flag value).SameBut hidden
          ((n.apply operation).state.setRegister Register.flag value))) ∧
    (∀ operations : List Operation,
      List.Forall₂ (fun a b => a.result = b.result ∧ a.after.SameBut hidden b.after)
          (m.history operations) (n.history operations) ↔
        ∀ earlier operation later, operations = earlier ++ operation :: later →
          ¬ (m.after earlier).Exposes (n.after earlier) operation) ∧
    ∀ w, (.delayTimer ∉ hidden → ¬ m.ShowsTimer n w) ∧ (.heldKeys ∉ hidden → ¬ m.ShowsKey n w) ∧
      (.screen ∉ hidden → ¬ m.ShowsPixel n w) := by
  refine ⟨fun operation => ⟨same.apply_result operation, ?_, same.apply_but_flag⟩,
    same.history_iff, fun w => ?_⟩
  · exact ⟨fun after exposes => same.not_apply exposes after, same.apply⟩
  · exact ⟨(same.not_showsTimer · w), (same.not_showsKey · w), (same.not_showsPixel · w)⟩

/-- Timers, keys and a pixel that differ stay hidden while `E09E` asks for key `13`, which does not
exist, and the clock ticks; `F007` shows the timer; and `D005` shows the pixel, but in the flag
only. -/
theorem missing_key_shows_nothing :
    let m : Machine := { powerOn.poke 512 [0xE0, 0x9E] with
      registers := Registers.zeroed.write 0 0x13 }
    let n : Machine := { m with
      delayTimer := 7
      soundTimer := 9
      keypad := (Keypad.idle.press 3).2
      screen := Screen.blank.set 0 0 true }
    let operations : List Operation := [.step 0, .clock]
    (m.SameBut Set.univ n ∧ ∀ earlier operation later,
      operations = earlier ++ operation :: later →
        ¬ (m.after earlier).Exposes (n.after earlier) operation) ∧
    List.Forall₂ (fun a b => a.result = b.result ∧ a.after.SameBut Set.univ b.after)
      (m.history operations) (n.history operations) ∧
    ¬ (m.apply (.execute 0xF007 0)).state.SameBut Set.univ (n.apply (.execute 0xF007 0)).state ∧
    ((m.apply (.execute 0xD005 0)).state.setRegister Register.flag 0).SameBut Set.univ
      ((n.apply (.execute 0xD005 0)).state.setRegister Register.flag 0) := by
  intro m n operations
  have all (part : Part) : ¬ part ∉ Set.univ := not_not.mpr (Set.mem_univ part)
  have same : m.SameBut Set.univ n := {
    memory := rfl
    pc := rfl
    index := rfl
    stack := rfl
    awaiting := rfl
    halted := rfl
    registers := rfl
    mode := rfl
    delayTimer := fun visible => absurd visible (all _)
    soundTimer := fun visible => absurd visible (all _)
    heldKeys := fun visible => absurd visible (all _)
    screen := fun visible => absurd visible (all _) }
  have fetch : m.nextWord = .ok 0xE09E := by decide +kernel
  have number : (m.vx 0xE09E).toNat = 0x13 := by decide +kernel
  have hides : ∀ earlier operation later, operations = earlier ++ operation :: later →
      ¬ (m.after earlier).Exposes (n.after earlier) operation := by
    refine forall_split_cons.mpr ⟨?_, forall_split_cons.mpr ⟨?_, ?_⟩⟩
    · rintro ⟨w, ⟨-, fetched, -⟩, shows⟩
      obtain rfl : 0xE09E = w := Except.ok.inj (fetch.symm.trans fetched)
      obtain ⟨word, -⟩ | ⟨-, k, named, -⟩ | ⟨word, -⟩ := shows
      · exact absurd word (by decide)
      · have named : k.val = 0x13 := named.trans number
        have := k.isLt
        omega
      · exact absurd word (by decide)
    · rintro ⟨w, runs, -⟩
      cases runs
    · intro earlier operation later split
      exact absurd split.symm (List.append_ne_nil_of_right_ne_nil earlier (List.cons_ne_nil _ _))
  obtain ⟨each, run, -⟩ := hidden_parts_show_only_where_read Set.univ m n same
  refine ⟨⟨same, hides⟩, (run operations).mpr hides, ?_, ?_⟩
  · refine fun after => (each (.execute 0xF007 0)).2.1.mp after ⟨0xF007, .execute 0xF007 0, ?_⟩
    exact .inl ⟨by decide, by decide⟩
  · refine (each (.execute 0xD005 0)).2.2 ?_ 0
    rintro w ⟨⟩
    refine ⟨fun timer => absurd timer.1 (by decide), ?_⟩
    rintro ⟨word | word, -⟩
    · exact absurd word (by decide)
    · exact absurd word (by decide)

end Machine

end Chip8
