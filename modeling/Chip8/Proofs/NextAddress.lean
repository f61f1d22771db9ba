import Chip8.Proofs.ControlFlow
import Chip8.Proofs.Faults
import Chip8.Proofs.Outcomes

/-!
# Where a program goes on

A step moves past its word before it executes it, so an instruction that leaves the program counter
alone goes on with the next word, and a skip that adds one word passes over it.  Jumps, calls and
returns go elsewhere.  Since a word can be fetched only inside the memory, none of these sums wraps.

The six skips come in pairs of opposites.  Of each pair exactly one passes over a word, in every
state and for every operand: a number above fifteen is the number of no key, so it counts as a key
that is not held.

## Main definitions

* `Machine.HoldsKey` — a byte is the number of a key that is held
* `Machine.Skips` — a word is a skip whose condition holds
* `Word.IsJump` — a word that goes elsewhere
* `Machine.Successor` — where the program goes on after a word
* `Word.Opposite` — two skips with the same operands that ask for the opposite

## Main statements

* `performed_of_skip` — a skip does nothing but move the program counter
* `skips_iff` — the condition of a word is the one that its family computes
* `successor_performed` — every instruction that takes effect goes on as said
* `steps_go_on_at_successor` — the same of steps, and the pairs of skips
-/

namespace Chip8

/-- A word `1NNN`, `2NNN`, `00EE` or `BNNN`. -/
def Word.IsJump (w : Word) : Prop :=
  w &&& 0xF000 = 0x1000 ∨ w &&& 0xF000 = 0x2000 ∨ w = 0x00EE ∨ w &&& 0xF000 = 0xB000

/-- The word `u` is a skip, and `v` is the opposite skip with the same operands. -/
inductive Word.Opposite (u v : Word) : Prop
  /-- `3XNN` and `4XNN`. -/
  | byte (first : u &&& 0xF000 = 0x3000) (second : v &&& 0xF000 = 0x4000) (x : v.x = u.x)
      (nn : v.nn = u.nn)
  /-- `5XY0` and `9XY0`. -/
  | register (first : u &&& 0xF00F = 0x5000) (second : v &&& 0xF00F = 0x9000) (x : v.x = u.x)
      (y : v.y = u.y)
  /-- `EX9E` and `EXA1`. -/
  | key (first : u &&& 0xF0FF = 0xE09E) (second : v &&& 0xF0FF = 0xE0A1) (x : v.x = u.x)

/-- An instruction of the family goes elsewhere. -/
def Opcode.isJump : Opcode → Bool
  | .jump | .subroutineCall | .subroutineReturn | .jumpWithOffset => true
  | _ => false

theorem Opcode.isJump_of_decode {w : Word} {opcode : Opcode} (family : decode w = some opcode)
    (jump : opcode.isJump = true) : w.IsJump := by
  cases opcode with
  | jump => exact .inl ((decode_iff_matches (by decide) w).mp family)
  | subroutineCall => exact .inr (.inl ((decode_subroutineCall_iff w).mp family))
  | subroutineReturn => exact .inr (.inr (.inl ((decode_subroutineReturn_iff w).mp family)))
  | jumpWithOffset => exact .inr (.inr (.inr ((decode_iff_matches (by decide) w).mp family)))
  | _ => cases jump

namespace Machine

variable {m : Machine} {w : Word} {opcode : Opcode} {byte : UInt8}

/-! ## Skips -/

/-- The byte is the number of a key, and that key is held.  Numbers above fifteen belong to no
key. -/
def HoldsKey (m : Machine) (number : UInt8) : Prop :=
  ∃ k : Key, k.val = number.toNat ∧ m.keypad.isHeld k = true

theorem numbersHeldKey_iff (m : Machine) (number : UInt8) :
    m.numbersHeldKey number = true ↔ m.HoldsKey number := by
  rw [numbersHeldKey, Key.ofIndex, HoldsKey]
  by_cases isKey : number.toNat < 16
  · rw [dif_pos isKey]
    constructor
    · intro held
      exact ⟨⟨number.toNat, isKey⟩, rfl, held⟩
    · rintro ⟨k, same, held⟩
      rwa [← (Fin.ext same : k = ⟨number.toNat, isKey⟩)]
  · rw [dif_neg isKey]
    constructor
    · nofun
    · rintro ⟨k, same, -⟩
      exact absurd (same ▸ k.isLt) isKey

/-- The word `w` is a skip whose condition holds. -/
inductive Skips (m : Machine) (w : Word) : Prop
  /-- `3XNN`: `VX` is `NN`. -/
  | byte (word : w &&& 0xF000 = 0x3000) (holds : m.vx w = w.nn)
  /-- `4XNN`: `VX` is not `NN`. -/
  | otherByte (word : w &&& 0xF000 = 0x4000) (holds : m.vx w ≠ w.nn)
  /-- `5XY0`: `VX` is `VY`. -/
  | register (word : w &&& 0xF00F = 0x5000) (holds : m.vx w = m.vy w)
  /-- `9XY0`: `VX` is not `VY`. -/
  | otherRegister (word : w &&& 0xF00F = 0x9000) (holds : m.vx w ≠ m.vy w)
  /-- `EX9E`: the key with the number `VX` is held. -/
  | key (word : w &&& 0xF0FF = 0xE09E) (holds : m.HoldsKey (m.vx w))
  /-- `EXA1`: no key with the number `VX` is held. -/
  | noKey (word : w &&& 0xF0FF = 0xE0A1) (holds : ¬ m.HoldsKey (m.vx w))

/-- The condition of an instruction, if it is a skip. -/
def condition? (m : Machine) (w : Word) : Opcode → Option Bool
  | .skipEqX => some (m.vx w = w.nn)
  | .skipNeqX => some (m.vx w ≠ w.nn)
  | .skipXEqY => some (m.vx w = m.vy w)
  | .skipXNeqY => some (m.vx w ≠ m.vy w)
  | .skipIfKeyPressed => some (m.numbersHeldKey (m.vx w))
  | .skipIfKeyNotPressed => some (!m.numbersHeldKey (m.vx w))
  | _ => none

/-- A skip does nothing but pass over the next word if its condition holds. -/
theorem performed_of_skip {condition : Bool} (skip : m.condition? w opcode = some condition)
    (byte : UInt8) :
    m.performed opcode w byte = { m with pc := if condition then m.pc + 2 else m.pc } := by
  have moved (c : Bool) : m.skipWhen c = { m with pc := if c then m.pc + 2 else m.pc } := by
    cases c <;> rfl
  cases opcode with
  | skipEqX | skipNeqX | skipXEqY | skipXNeqY | skipIfKeyPressed | skipIfKeyNotPressed =>
      cases skip
      exact moved _
  | _ => cases skip

/-- No other instruction touches the program counter, unless it goes elsewhere. -/
theorem performed_pc (stays : opcode.isJump = false) (noSkip : m.condition? w opcode = none)
    (byte : UInt8) : (m.performed opcode w byte).pc = m.pc := by
  cases opcode with
  | jump | subroutineCall | subroutineReturn | jumpWithOffset => cases stays
  | skipEqX | skipNeqX | skipXEqY | skipXNeqY | skipIfKeyPressed | skipIfKeyNotPressed =>
      cases noSkip
  | _ => rfl

/-- A skip never fails. -/
theorem refusal_of_skip {condition : Bool} (skip : m.condition? w opcode = some condition) :
    m.refusal opcode w = none := by
  cases opcode with
  | subroutineReturn | draw | binaryCodedDecimal | store | load => cases skip
  | _ => rfl

/-- Whether a word is a skip whose condition holds can be read off its family. -/
theorem skips_iff (family : Opcode.decode w = some opcode) :
    m.Skips w ↔ m.condition? w opcode = some true := by
  constructor
  · intro skips
    cases skips with
    | byte word holds =>
        rw [Opcode.eq_of_decode family .skipEqX (by decide) word]
        exact congrArg some (decide_eq_true holds)
    | otherByte word holds =>
        rw [Opcode.eq_of_decode family .skipNeqX (by decide) word]
        exact congrArg some (decide_eq_true holds)
    | register word holds =>
        rw [Opcode.eq_of_decode family .skipXEqY (by decide) word]
        exact congrArg some (decide_eq_true holds)
    | otherRegister word holds =>
        rw [Opcode.eq_of_decode family .skipXNeqY (by decide) word]
        exact congrArg some (decide_eq_true holds)
    | key word holds =>
        rw [Opcode.eq_of_decode family .skipIfKeyPressed (by decide) word]
        exact congrArg some ((numbersHeldKey_iff m _).mpr holds)
    | noKey word holds =>
        have free : m.numbersHeldKey (m.vx w) = false :=
          Bool.eq_false_iff.mpr fun held => holds ((numbersHeldKey_iff m _).mp held)
        rw [Opcode.eq_of_decode family .skipIfKeyNotPressed (by decide) word, condition?,
          free]
        rfl
  · intro skip
    cases opcode with
    | skipEqX =>
        exact .byte ((Opcode.decode_iff_matches (by decide) w).mp family)
          (of_decide_eq_true (Option.some.inj skip))
    | skipNeqX =>
        exact .otherByte ((Opcode.decode_iff_matches (by decide) w).mp family)
          (of_decide_eq_true (Option.some.inj skip))
    | skipXEqY =>
        exact .register ((Opcode.decode_iff_matches (by decide) w).mp family)
          (of_decide_eq_true (Option.some.inj skip))
    | skipXNeqY =>
        exact .otherRegister ((Opcode.decode_iff_matches (by decide) w).mp family)
          (of_decide_eq_true (Option.some.inj skip))
    | skipIfKeyPressed =>
        exact .key ((Opcode.decode_iff_matches (by decide) w).mp family)
          ((numbersHeldKey_iff m _).mp (Option.some.inj skip))
    | skipIfKeyNotPressed =>
        refine .noKey ((Opcode.decode_iff_matches (by decide) w).mp family) fun held => ?_
        rw [condition?, (numbersHeldKey_iff m _).mpr held] at skip
        cases skip
    | _ => cases skip

/-- Executing a skip in any state passes over a word if the condition holds, and does nothing
otherwise. -/
theorem execute_of_skip {condition : Bool} (family : Opcode.decode w = some opcode)
    (skip : m.condition? w opcode = some condition) (byte : UInt8) :
    (m.Skips w → (m.execute w byte).state = { m with pc := m.pc + 2 }) ∧
      (¬ m.Skips w → (m.execute w byte).state = m) := by
  rw [skips_iff family, skip, execute_of_accepted family (refusal_of_skip skip),
    performed_of_skip skip]
  cases condition with
  | true => exact ⟨fun _ => rfl, fun fails => absurd rfl fails⟩
  | false => exact ⟨nofun, fun _ => rfl⟩

/-! ## Successors -/

/-- Where a program goes on after the word `w` at the program counter of `m`, if the step leads to
`next`. -/
structure Successor (m : Machine) (w : Word) (next : Machine) : Prop where
  /-- `1NNN` goes on at `NNN`. -/
  jump : w &&& 0xF000 = 0x1000 → next.pc.toNat = w.toNat % 4096
  /-- `2NNN` goes on at `NNN`, and keeps the address of the word behind it. -/
  call : w &&& 0xF000 = 0x2000 → next.pc.toNat = w.toNat % 4096 ∧
    ∃ back, next.stack = back :: m.stack ∧ back.toNat = m.pc.toNat + 2
  /-- `00EE` goes on at the last return address, and takes it off the call stack. -/
  back : w = 0x00EE → m.stack = next.pc :: next.stack
  /-- `BNNN` goes on at the sum of `NNN` and `V0`. -/
  offset : w &&& 0xF000 = 0xB000 →
    next.pc.toNat = w.toNat % 4096 + (m.registers.read 0).toNat
  skip : m.Skips w → next.pc.toNat = m.pc.toNat + 4
  onward : ¬ w.IsJump → ¬ m.Skips w → next.pc.toNat = m.pc.toNat + 2

theorem toNat_pc_add_two (inside : m.pc.toNat < 4095) : (m.pc + 2).toNat = m.pc.toNat + 2 :=
  toNat_add_two (by omega)

theorem toNat_pc_add_four (inside : m.pc.toNat < 4095) :
    (m.pc + 2 + 2).toNat = m.pc.toNat + 4 := by
  have once := toNat_pc_add_two inside
  rw [toNat_add_two (by omega), once]

/-- A word of no family is passed over. -/
theorem successor_of_unknown (inside : m.pc.toNat < 4095) (family : Opcode.decode w = none) :
    m.Successor w { m with pc := m.pc + 2 } := by
  have other (opcode : Opcode) : ¬ opcode.fixed.Matches w :=
    (Opcode.decode_eq_none_iff w).mp family opcode
  have noReturn : w ≠ 0x00EE := by
    rintro rfl
    exact other .subroutineReturn (by decide)
  have noSkip : ¬ m.Skips w := by
    intro skips
    cases skips with
    | byte word _ => exact other .skipEqX word
    | otherByte word _ => exact other .skipNeqX word
    | register word _ => exact other .skipXEqY word
    | otherRegister word _ => exact other .skipXNeqY word
    | key word _ => exact other .skipIfKeyPressed word
    | noKey word _ => exact other .skipIfKeyNotPressed word
  exact {
    jump := fun word => absurd word (other .jump)
    call := fun word => absurd word (other .subroutineCall)
    back := fun word => absurd word noReturn
    offset := fun word => absurd word (other .jumpWithOffset)
    skip := fun skips => absurd skips noSkip
    onward := fun _ _ => toNat_pc_add_two inside }

/-- An instruction that takes effect, after the step has moved past its word. -/
theorem successor_performed (inside : m.pc.toNat < 4095) (family : Opcode.decode w = some opcode)
    (accepted : m.refusal opcode w = none) (byte : UInt8) :
    m.Successor w ({ m with pc := m.pc + 2 }.performed opcode w byte) where
  jump word := by
    rw [Opcode.eq_of_decode family .jump (by decide) word]
    exact Word.toNat_nnn w
  call word := by
    rw [Opcode.eq_of_decode family .subroutineCall (by decide) word]
    exact ⟨Word.toNat_nnn w, m.pc + 2, rfl, toNat_pc_add_two inside⟩
  back word := by
    have found := (Opcode.decode_subroutineReturn_iff w).mpr word
    cases family.symm.trans found
    cases stack : m.stack with
    | nil => simp [refusal, stack] at accepted
    | cons address rest => simp only [performed, List.headD_cons, List.tail_cons]
  offset word := by
    rw [Opcode.eq_of_decode family .jumpWithOffset (by decide) word]
    exact (toNat_nnn_add w _).trans (by rw [Word.toNat_nnn])
  skip skips := by
    -- where the program counter stands has no part in the condition
    have skip : { m with pc := m.pc + 2 }.condition? w opcode = some true :=
      (skips_iff (m := m) family).mp skips
    rw [performed_of_skip skip]
    exact toNat_pc_add_four inside
  onward noJump noSkip := by
    have stays : opcode.isJump = false := by
      rw [Bool.eq_false_iff]
      exact fun jump => noJump (Opcode.isJump_of_decode family jump)
    -- a skip whose condition fails leaves the program counter where the step put it
    cases skip : { m with pc := m.pc + 2 }.condition? w opcode with
    | none =>
        rw [performed_pc stays skip]
        exact toNat_pc_add_two inside
    | some condition =>
        have fails : condition = false := by
          rw [Bool.eq_false_iff]
          rintro rfl
          exact noSkip ((skips_iff (m := m) family).mpr skip)
        rw [performed_of_skip skip, fails]
        exact toNat_pc_add_two inside

/-! ## Pairs of skips -/

/-- Of two opposite skips one is a skip of some family, and the condition of the other is the
negation. -/
theorem condition?_of_opposite {u v : Word} (opposite : u.Opposite v) :
    ∃ (first second : Opcode) (condition : Bool),
      Opcode.decode u = some first ∧ m.condition? u first = some condition ∧
      Opcode.decode v = some second ∧ m.condition? v second = some !condition := by
  cases opposite with
  | byte first second x nn =>
      refine ⟨.skipEqX, .skipNeqX, _, (Opcode.decode_iff_matches (by decide) u).mpr first, rfl,
        (Opcode.decode_iff_matches (by decide) v).mpr second, ?_⟩
      rw [condition?, vx, x, nn]
      exact congrArg some decide_not
  | register first second x y =>
      refine ⟨.skipXEqY, .skipXNeqY, _, (Opcode.decode_iff_matches (by decide) u).mpr first, rfl,
        (Opcode.decode_iff_matches (by decide) v).mpr second, ?_⟩
      rw [condition?, vx, vy, x, y]
      exact congrArg some decide_not
  | key first second x =>
      refine ⟨.skipIfKeyPressed, .skipIfKeyNotPressed, _,
        (Opcode.decode_iff_matches (by decide) u).mpr first, rfl,
        (Opcode.decode_iff_matches (by decide) v).mpr second, ?_⟩
      simp only [condition?, vx, x]

/-- **Every step goes on at the successor of its word.**  If a machine goes on, the word at the
program counter is not zero, and the step does not fail, then the program goes on as `Successor`
says: jumps and calls at their address, a return at the last return address, a skip whose condition
holds behind the next word, and every other word, known or not, at the next word.

Of two opposite skips with the same operands exactly one passes over a word, in every state; the
other does nothing. -/
theorem steps_go_on_at_successor :
    (∀ (m : Machine) (w : Word) (byte : UInt8) (outcome : Outcome),
      m.Ready → m.nextWord = .ok w → w ≠ 0 → (m.step byte).result = .ok outcome →
      m.Successor w (m.step byte).state) ∧
    ∀ (m : Machine) (u v : Word) (byte : UInt8), u.Opposite v →
      (m.Skips v ↔ ¬ m.Skips u) ∧
      ∀ skip, skip = u ∨ skip = v →
        (m.Skips skip → (m.execute skip byte).state = { m with pc := m.pc + 2 }) ∧
        (¬ m.Skips skip → (m.execute skip byte).state = m) := by
  constructor
  · intro m w byte outcome ready fetch nonzero succeeded
    have inside := (nextWord_eq_ok_iff.mp fetch).1
    cases family : Opcode.decode w with
    | none =>
        rw [step_of_unknown ready fetch nonzero family]
        exact successor_of_unknown inside family
    | some opcode =>
        cases refused : m.refusal opcode w with
        | some e =>
            rw [step_of_refused ready fetch nonzero family refused] at succeeded
            cases succeeded
        | none =>
            rw [step_of_accepted ready fetch nonzero family refused]
            exact successor_performed inside family refused byte
  · intro m u v byte opposite
    obtain ⟨first, second, condition, ofU, skipU, ofV, skipV⟩ :=
      condition?_of_opposite (m := m) opposite
    refine ⟨?_, ?_⟩
    · rw [skips_iff ofU, skips_iff ofV, skipU, skipV]
      cases condition <;> simp
    · rintro skip (rfl | rfl)
      · exact execute_of_skip ofU skipU byte
      · exact execute_of_skip ofV skipV byte

/-- `E6A1` passes over a word while the key `E` is held, if `V6` holds `1E`, which is the number of
no key; and `E69E` does nothing then. -/
theorem number_above_fifteen_is_no_key :
    let m : Machine := { powerOn.poke 512 [0xE6, 0xA1] with
      registers := Registers.zeroed.write 6 0x1E
      keypad := (Keypad.idle.press 14).2 }
    (m.Ready ∧ m.nextWord = .ok 0xE6A1 ∧ (0xE6A1 : Word) ≠ 0 ∧
      (m.step 0).result = .ok (.executed .skipIfKeyNotPressed) ∧
      (0xE69E : Word).Opposite 0xE6A1) ∧
    (m.step 0).state.pc.toNat = 516 ∧ (m.execute 0xE69E 0).state = m := by
  intro m
  have fetch : m.nextWord = .ok 0xE6A1 ∧
      (m.step 0).result = .ok (.executed .skipIfKeyNotPressed) := by decide +kernel
  have opposite : (0xE69E : Word).Opposite 0xE6A1 := .key rfl rfl rfl
  have number : (m.vx 0xE6A1).toNat = 30 := by decide +kernel
  have noKey : ¬ m.HoldsKey (m.vx 0xE6A1) := by
    rintro ⟨k, same, -⟩
    have := k.isLt
    omega
  have skips : m.Skips 0xE6A1 := .noKey rfl noKey
  have successor := steps_go_on_at_successor.1 m 0xE6A1 0 _ ⟨rfl, rfl⟩ fetch.1 (by decide) fetch.2
  obtain ⟨one, both⟩ := steps_go_on_at_successor.2 m 0xE69E 0xE6A1 0 opposite
  refine ⟨⟨⟨rfl, rfl⟩, fetch.1, by decide, fetch.2, opposite⟩, successor.skip skips, ?_⟩
  exact (both 0xE69E (.inl rfl)).2 (one.mp skips)

end Machine

end Chip8
