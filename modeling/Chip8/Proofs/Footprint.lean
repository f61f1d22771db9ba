import Chip8.Proofs.Keys
import Chip8.Proofs.LifeCycle
import Chip8.Proofs.NextAddress
import Chip8.Proofs.TimerValues

/-!
# What a word leaves alone

Every word changes a few parts of the state and leaves all others as they were.  `Footprint` lists
the parts one by one, each with the words that may change it and, where this matters, with the range
of addresses, the registers or the mode.  It is read off the instructions part by part: a part that
changed names the family of the word, and the family its bits.

## Main definitions

* `Opcode.writesX`, `Opcode.writesFlag` — the families that write `VX`, and those that write `VF`
* `Word.WritesX`, `Word.WritesFlag` — their words
* `Machine.Footprint` — the words that may change a part of the state, part by part

## Main statements

* `byte_performed`, `read_performed`, `index_performed`, `screen_performed`, `stack_performed`,
  `pc_performed` — the families that may change a part
* `footprint_performed` — every instruction stays within its footprint
* `words_stay_within_footprint` — the same of every word, known or not
-/

namespace Chip8

/-! ## Registers that are written -/

/-- An instruction of the family puts its result in `VX`. -/
def Opcode.writesX : Opcode → Bool
  | .setImmediate | .add | .setXToY | .binaryOr | .binaryAnd | .logicalXor | .binaryAdd
  | .subtractYFromX | .rightShift | .subtractXFromY | .leftShift | .random | .setVxFromTimer => true
  | _ => false

/-- An instruction of the family puts a flag in `VF`. -/
def Opcode.writesFlag : Opcode → Bool
  | .binaryAdd | .subtractYFromX | .rightShift | .subtractXFromY | .leftShift | .draw => true
  | _ => false

/-- A word `6XNN`, `7XNN`, `8XY0` to `8XY7`, `8XYE`, `CXNN` or `FX07`. -/
def Word.WritesX (w : Word) : Prop :=
  w &&& 0xF000 = 0x6000 ∨ w &&& 0xF000 = 0x7000 ∨ w &&& 0xF00F = 0x8000 ∨ w &&& 0xF00F = 0x8001 ∨
  w &&& 0xF00F = 0x8002 ∨ w &&& 0xF00F = 0x8003 ∨ w &&& 0xF00F = 0x8004 ∨ w &&& 0xF00F = 0x8005 ∨
  w &&& 0xF00F = 0x8006 ∨ w &&& 0xF00F = 0x8007 ∨ w &&& 0xF00F = 0x800E ∨ w &&& 0xF000 = 0xC000 ∨
  w &&& 0xF0FF = 0xF007

/-- A word `8XY4`, `8XY5`, `8XY6`, `8XY7`, `8XYE` or `DXYN`. -/
def Word.WritesFlag (w : Word) : Prop :=
  w &&& 0xF00F = 0x8004 ∨ w &&& 0xF00F = 0x8005 ∨ w &&& 0xF00F = 0x8006 ∨ w &&& 0xF00F = 0x8007 ∨
  w &&& 0xF00F = 0x800E ∨ w &&& 0xF000 = 0xD000

namespace Opcode

variable {w : Word} {opcode : Opcode}

theorem writesX_of_decode (family : decode w = some opcode) (writes : opcode.writesX = true) :
    w.WritesX := by
  have word (own : opcode ≠ .machineRoutine) : opcode.fixed.Matches w :=
    (decode_iff_matches own w).mp family
  unfold Word.WritesX
  cases opcode with
  | setImmediate | add | setXToY | binaryOr | binaryAnd | logicalXor | binaryAdd | subtractYFromX
  | rightShift | subtractXFromY | leftShift | random | setVxFromTimer =>
      have bits := word (by decide)
      simp only [Pattern.Matches, fixed] at bits
      simp only [bits, true_or, or_true]
  | _ => cases writes

theorem writesFlag_of_decode (family : decode w = some opcode) (writes : opcode.writesFlag = true) :
    w.WritesFlag := by
  have word (own : opcode ≠ .machineRoutine) : opcode.fixed.Matches w :=
    (decode_iff_matches own w).mp family
  unfold Word.WritesFlag
  cases opcode with
  | binaryAdd | subtractYFromX | rightShift | subtractXFromY | leftShift | draw =>
      have bits := word (by decide)
      simp only [Pattern.Matches, fixed] at bits
      simp only [bits, true_or, or_true]
  | _ => cases writes

end Opcode

namespace Machine

variable {m : Machine} {w : Word} {opcode : Opcode} {byte : UInt8}

/-! ## Parts and the families that change them -/

theorem overwrite_changed {memory : Memory} {start a : Nat} {bytes : List UInt8}
    (changed : (memory.overwrite start bytes).byte a ≠ memory.byte a) :
    start ≤ a ∧ a < start + bytes.length := by
  by_contra outside
  apply changed
  rw [Memory.byte_overwrite, if_neg fun inside => outside inside.2]

theorem write_changed {rs : Registers} {target r : Register} {value : UInt8}
    (changed : (rs.write target value).read r ≠ rs.read r) : r = target := by
  by_contra other
  exact changed (Registers.read_write_of_ne other rs value)

theorem load_changed {rs : Registers} {values : List UInt8} {r : Register}
    (changed : (rs.load values).read r ≠ rs.read r) : r.val < values.length := by
  by_contra behind
  apply changed
  rw [Registers.read_load, List.getElem?_eq_none (Nat.le_of_not_lt behind), Option.getD_none]

/-- A skip leaves everything but the program counter alone. -/
theorem skipWhen_eq (m : Machine) (condition : Bool) :
    m.skipWhen condition = { m with pc := (m.skipWhen condition).pc } := by
  cases condition <;> rfl

/-- A byte is changed by `FX33` and `FX55` only, within the bytes at the index. -/
theorem byte_performed {a : Nat}
    (changed : (m.performed opcode w byte).memory.byte a ≠ m.memory.byte a) :
    (opcode = .binaryCodedDecimal ∧ m.index.toNat ≤ a ∧ a ≤ m.index.toNat + 2) ∨
    (opcode = .store ∧ m.index.toNat ≤ a ∧ a ≤ m.index.toNat + w.x.val) := by
  cases opcode with
  | binaryCodedDecimal =>
      obtain ⟨left, right⟩ := overwrite_changed changed
      have three : (decimalDigits (m.vx w)).length = 3 := rfl
      exact .inl ⟨rfl, left, by omega⟩
  | store =>
      obtain ⟨left, right⟩ := overwrite_changed changed
      rw [length_lowest_transferCount, transferCount] at right
      exact .inr ⟨rfl, left, by omega⟩
  | skipEqX | skipNeqX | skipXEqY | skipXNeqY | skipIfKeyPressed | skipIfKeyNotPressed =>
      exact absurd (congrArg (fun next => next.memory.byte a) (skipWhen_eq m _)) changed
  | _ => exact absurd rfl changed

/-- A register is changed as the result, as the flag, or by `FX65` up to `VX`. -/
theorem read_performed {r : Register}
    (changed : (m.performed opcode w byte).registers.read r ≠ m.registers.read r) :
    (r = w.x ∧ opcode.writesX = true) ∨ (r = Register.flag ∧ opcode.writesFlag = true) ∨
    (opcode = .load ∧ r.val ≤ w.x.val) := by
  cases opcode with
  | setImmediate | add | setXToY | binaryOr | binaryAnd | logicalXor | random | setVxFromTimer =>
      exact .inl ⟨write_changed changed, rfl⟩
  | binaryAdd | subtractYFromX | rightShift | subtractXFromY | leftShift =>
      by_cases flag : r = Register.flag
      · exact .inr (.inl ⟨flag, rfl⟩)
      · have result : r = w.x := by
          by_contra other
          exact changed ((Registers.read_write_of_ne flag _ _).trans
            (Registers.read_write_of_ne other _ _))
        exact .inl ⟨result, rfl⟩
  | draw => exact .inr (.inl ⟨write_changed changed, rfl⟩)
  | load =>
      have below := load_changed changed
      rw [bytesAtIndex, List.length_map, List.length_range, transferCount] at below
      exact .inr (.inr ⟨rfl, by omega⟩)
  | skipEqX | skipNeqX | skipXEqY | skipXNeqY | skipIfKeyPressed | skipIfKeyNotPressed =>
      exact absurd (congrArg (fun next => next.registers.read r) (skipWhen_eq m _)) changed
  | _ => exact absurd rfl changed

/-- The index is changed by three families, and in the older mode by the block transfers. -/
theorem index_performed (changed : (m.performed opcode w byte).index ≠ m.index) :
    opcode = .setIndex ∨ opcode = .addToIndex ∨ opcode = .fontChar ∨
    (m.mode = .chip8 ∧ (opcode = .store ∨ opcode = .load)) := by
  have older (moved : m.nextIndex (transferCount w) ≠ m.index) : m.mode = .chip8 := by
    cases mode : m.mode with
    | chip8 => rfl
    | superChip => simp [nextIndex, mode] at moved
  cases opcode with
  | setIndex => exact .inl rfl
  | addToIndex => exact .inr (.inl rfl)
  | fontChar => exact .inr (.inr (.inl rfl))
  | store => exact .inr (.inr (.inr ⟨older changed, .inl rfl⟩))
  | load => exact .inr (.inr (.inr ⟨older changed, .inr rfl⟩))
  | skipEqX | skipNeqX | skipXEqY | skipXNeqY | skipIfKeyPressed | skipIfKeyNotPressed =>
      exact absurd (congrArg Machine.index (skipWhen_eq m _)) changed
  | _ => exact absurd rfl changed

theorem screen_performed (changed : (m.performed opcode w byte).screen ≠ m.screen) :
    opcode = .clearScreen ∨ opcode = .draw := by
  cases opcode with
  | clearScreen => exact .inl rfl
  | draw => exact .inr rfl
  | skipEqX | skipNeqX | skipXEqY | skipXNeqY | skipIfKeyPressed | skipIfKeyNotPressed =>
      exact absurd (congrArg Machine.screen (skipWhen_eq m _)) changed
  | _ => exact absurd rfl changed

theorem mode_performed (m : Machine) (opcode : Opcode) (w : Word) (byte : UInt8) :
    (m.performed opcode w byte).mode = m.mode := by
  cases opcode with
  | skipEqX | skipNeqX | skipXEqY | skipXNeqY | skipIfKeyPressed | skipIfKeyNotPressed =>
      change (m.skipWhen _).mode = m.mode
      rw [skipWhen_eq]
  | _ => rfl

/-- The call stack is changed by calls and returns only. -/
theorem stack_performed (changed : (m.performed opcode w byte).stack ≠ m.stack) :
    opcode = .subroutineCall ∨ opcode = .subroutineReturn := by
  cases opcode with
  | subroutineCall => exact .inl rfl
  | subroutineReturn => exact .inr rfl
  | skipEqX | skipNeqX | skipXEqY | skipXNeqY | skipIfKeyPressed | skipIfKeyNotPressed =>
      exact absurd (congrArg Machine.stack (skipWhen_eq m _)) changed
  | _ => exact absurd rfl changed

/-- The program counter is changed by jumps, and by skips whose condition holds. -/
theorem pc_performed (changed : (m.performed opcode w byte).pc ≠ m.pc) :
    opcode.isJump = true ∨ m.condition? w opcode = some true := by
  cases skip : m.condition? w opcode with
  | none =>
      refine .inl (by_contra fun stays => changed ?_)
      exact performed_pc (Bool.not_eq_true _ ▸ stays) skip byte
  | some condition =>
      rw [performed_of_skip skip] at changed
      cases condition with
      | true => exact .inr rfl
      | false => exact absurd rfl changed

/-! ## Footprints -/

/-- What the word `w` may have changed, if it was executed in `m` and left `next`. -/
structure Footprint (m : Machine) (w : Word) (next : Machine) : Prop where
  /-- The three digits of `FX33`, and the block of `FX55`. -/
  memory : ∀ a, next.memory.byte a ≠ m.memory.byte a →
    (w &&& 0xF0FF = 0xF033 ∧ m.index.toNat ≤ a ∧ a ≤ m.index.toNat + 2) ∨
    (w &&& 0xF0FF = 0xF055 ∧ m.index.toNat ≤ a ∧ a ≤ m.index.toNat + w.x.val)
  /-- `VX` as the result, `VF` as the flag, and `V0` to `VX` for `FX65`. -/
  registers : ∀ r, next.registers.read r ≠ m.registers.read r →
    (r = w.x ∧ w.WritesX) ∨ (r = Register.flag ∧ w.WritesFlag) ∨
    (w &&& 0xF0FF = 0xF065 ∧ r.val ≤ w.x.val)
  /-- `1NNN`, `2NNN`, `00EE`, `BNNN`, and the skips whose condition holds. -/
  pc : next.pc ≠ m.pc → w.IsJump ∨ m.Skips w
  /-- `ANNN`, `FX1E` and `FX29`, and `FX55` and `FX65` in the older mode. -/
  index : next.index ≠ m.index →
    w &&& 0xF000 = 0xA000 ∨ w &&& 0xF0FF = 0xF01E ∨ w &&& 0xF0FF = 0xF029 ∨
    (m.mode = .chip8 ∧ (w &&& 0xF0FF = 0xF055 ∨ w &&& 0xF0FF = 0xF065))
  /-- `2NNN` and `00EE`. -/
  stack : next.stack ≠ m.stack → w &&& 0xF000 = 0x2000 ∨ w = 0x00EE
  /-- `FX15`. -/
  delayTimer : next.delayTimer ≠ m.delayTimer → w &&& 0xF0FF = 0xF015
  /-- `FX18`. -/
  soundTimer : next.soundTimer ≠ m.soundTimer → w &&& 0xF0FF = 0xF018
  /-- `00E0` and `DXYN`. -/
  screen : ∀ x y, next.screen.pixel x y ≠ m.screen.pixel x y →
    w = 0x00E0 ∨ w &&& 0xF000 = 0xD000
  /-- `FX0A`. -/
  awaiting : next.awaiting ≠ m.awaiting → w &&& 0xF0FF = 0xF00A
  held : ∀ k, next.keypad.isHeld k = m.keypad.isHeld k
  mode : next.mode = m.mode
  halted : next.halted = m.halted

/-- A state that is as it was has every footprint. -/
theorem Footprint.refl (m : Machine) (w : Word) : m.Footprint w m where
  memory _ changed := absurd rfl changed
  registers _ changed := absurd rfl changed
  pc changed := absurd rfl changed
  index changed := absurd rfl changed
  stack changed := absurd rfl changed
  delayTimer changed := absurd rfl changed
  soundTimer changed := absurd rfl changed
  screen _ _ changed := absurd rfl changed
  awaiting changed := absurd rfl changed
  held _ := rfl
  mode := rfl
  halted := rfl

/-- A timer that changed was set. -/
theorem timer_performed {t : Timer} (changed : (m.performed opcode w byte).timer t ≠ m.timer t) :
    opcode = t.setter := by
  by_contra other
  exact changed ((performed_timer m opcode w byte t).trans (if_neg other))

/-- An instruction that takes effect stays within its footprint. -/
theorem footprint_performed (family : Opcode.decode w = some opcode)
    (accepted : m.refusal opcode w = none) (byte : UInt8) :
    m.Footprint w (m.performed opcode w byte) := by
  have word (own : Opcode) (notRoutine : own ≠ .machineRoutine) (found : opcode = own) :
      own.fixed.Matches w :=
    (Opcode.decode_iff_matches notRoutine w).mp (found ▸ family)
  have keypad := perform_keypad (perform_eq_performed accepted byte)
  exact {
    memory := by
      intro a changed
      obtain ⟨found, range⟩ | ⟨found, range⟩ := byte_performed changed
      · exact .inl ⟨word .binaryCodedDecimal (by decide) found, range⟩
      · exact .inr ⟨word .store (by decide) found, range⟩
    registers := by
      intro r changed
      obtain ⟨x, writes⟩ | ⟨flag, writes⟩ | ⟨found, range⟩ := read_performed changed
      · exact .inl ⟨x, Opcode.writesX_of_decode family writes⟩
      · exact .inr (.inl ⟨flag, Opcode.writesFlag_of_decode family writes⟩)
      · exact .inr (.inr ⟨word .load (by decide) found, range⟩)
    pc := by
      intro changed
      obtain jump | skip := pc_performed changed
      · exact .inl (Opcode.isJump_of_decode family jump)
      · exact .inr ((skips_iff family).mpr skip)
    index := by
      intro changed
      obtain found | found | found | ⟨older, found | found⟩ := index_performed changed
      · exact .inl (word .setIndex (by decide) found)
      · exact .inr (.inl (word .addToIndex (by decide) found))
      · exact .inr (.inr (.inl (word .fontChar (by decide) found)))
      · exact .inr (.inr (.inr ⟨older, .inl (word .store (by decide) found)⟩))
      · exact .inr (.inr (.inr ⟨older, .inr (word .load (by decide) found)⟩))
    stack := by
      intro changed
      obtain found | found := stack_performed changed
      · exact .inl (word .subroutineCall (by decide) found)
      · exact .inr ((Opcode.decode_subroutineReturn_iff w).mp (found ▸ family))
    delayTimer := by
      intro changed
      exact word .setDelayTimer (by decide) (timer_performed (t := .delay) changed)
    soundTimer := by
      intro changed
      exact word .setSoundTimer (by decide) (timer_performed (t := .sound) changed)
    screen := by
      intro x y changed
      obtain found | found := screen_performed fun same => changed (by rw [same])
      · exact .inl ((Opcode.decode_clearScreen_iff w).mp (found ▸ family))
      · exact .inr (word .draw (by decide) found)
    awaiting := by
      intro changed
      refine word .getKey (by decide) (by_contra fun other => changed ?_)
      rw [awaiting, keypad, if_neg other]
      rfl
    held := by
      intro k
      rw [keypad]
      split <;> rfl
    mode := mode_performed m opcode w byte
    halted := performed_halted m opcode w byte }

/-- **Every word stays within its footprint.**  Executing a word, whether it succeeds or fails,
changes a part of the state only if the word is one of those that `Footprint` names for the part,
and then only in the range that is named.  A word of no family changes nothing at all. -/
theorem words_stay_within_footprint (m : Machine) (w : Word) (byte : UInt8) :
    m.Footprint w (m.execute w byte).state ∧
    ((∀ opcode : Opcode, ¬ opcode.fixed.Matches w) →
      m.execute w byte = ⟨.ok (.unknownWord w), m, [.unknownWord w m.pc]⟩) := by
  constructor
  · cases family : Opcode.decode w with
    | none =>
        rw [execute_of_unknown family]
        exact Footprint.refl m w
    | some opcode =>
        cases refused : m.refusal opcode w with
        | some e =>
            rw [execute_of_refused family refused]
            exact Footprint.refl m w
        | none =>
            rw [execute_of_accepted family refused]
            exact footprint_performed family refused byte
  · intro none
    exact execute_of_unknown ((Opcode.decode_eq_none_iff w).mpr none) byte

/-- `F255` with the index `300` leaves the byte at `303` and the timers alone, and `5121`, which
looks like a skip but belongs to no family, leaves everything alone. -/
theorem short_block_and_unknown_word :
    let m : Machine := { powerOn with
      registers := (Registers.zeroed.write 2 8).write 3 7
      index := 0x300
      delayTimer := 5 }
    (∀ opcode : Opcode, ¬ opcode.fixed.Matches 0x5121) ∧
    m.execute 0x5121 0 = ⟨.ok (.unknownWord 0x5121), m, [.unknownWord 0x5121 512]⟩ ∧
    (m.execute 0xF255 0).state.memory.byte 0x303 = 0 ∧
    (m.execute 0xF255 0).state.delayTimer = 5 := by
  intro m
  have none (opcode : Opcode) : ¬ opcode.fixed.Matches 0x5121 := by
    cases opcode <;> decide
  have footprint := (words_stay_within_footprint m 0xF255 0).1
  have before : m.memory.byte 0x303 = 0 := by decide +kernel
  refine ⟨none, (words_stay_within_footprint m 0x5121 0).2 none, ?_, ?_⟩
  · by_contra changed
    rw [← before] at changed
    obtain ⟨word, -⟩ | ⟨-, -, inside⟩ := footprint.memory 0x303 changed
    · exact absurd word (by decide)
    · exact absurd inside (by decide)
  · by_contra changed
    exact absurd (footprint.delayTimer changed) (by decide)

end Machine

end Chip8
