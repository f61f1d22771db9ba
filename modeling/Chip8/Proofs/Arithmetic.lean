import Chip8.Machine.Control
import Chip8.Proofs.Decoding
import Chip8.Proofs.Outcomes

/-!
# Arithmetic

Five families have a result and a flag.  Both are computed from the operands as they were before
the instruction, the result is written to `VX`, and then the flag to `VF`.  So where `VX` or `VY` is
`VF` itself, the operand is still the old content, and in the end `VF` holds the flag.  Five further
families have a result only, and leave `VF` alone unless it is `VX`.

What is computed is said in integers: the sum and the differences modulo 256, and half and double of
the operand of a shift.  On bytes this is what addition, subtraction and shifts by one place do.

## Main definitions

* `Mode.shifted` — the operand of a shift
* `Word.Computes` — the result and the flag of a word that has both
* `Word.Assigns` — the result of a word that has no flag
* `Registers.Flagged`, `Registers.Assigned` — what is written to the registers
* `Machine.Rewrites` — a word that takes effect and changes nothing but the registers

## Main statements

* `rewrites_of_performed` — what an instruction does to the registers is all that a step does,
  except that it moves on
* `flagged_of_computes`, `assigned_of_assigns` — the two kinds of families
* `arithmetic_is_exact` — both, for every machine and every word
-/

namespace Chip8

/-- The operand of a shift, out of the contents of `VX` and `VY`. -/
def Mode.shifted : Mode → (a b : Nat) → Nat
  | .chip8, _, b => b
  | .superChip, a, _ => a

/-- The word `w` has the given result and flag, if `VX` holds `a` and `VY` holds `b`. -/
inductive Word.Computes (w : Word) (mode : Mode) (a b : Nat) : (result flag : Int) → Prop
  /-- `8XY4`: the flag tells that the sum does not fit into a byte. -/
  | sum (word : w &&& 0xF00F = 0x8004) :
      w.Computes mode a b ((a + b : Int) % 256) (if 255 < a + b then 1 else 0)
  /-- `8XY5`: the flag tells that the difference is not negative. -/
  | difference (word : w &&& 0xF00F = 0x8005) :
      w.Computes mode a b ((a - b : Int) % 256) (if b ≤ a then 1 else 0)
  /-- `8XY7`: the flag tells that the difference is not negative. -/
  | oppositeDifference (word : w &&& 0xF00F = 0x8007) :
      w.Computes mode a b ((b - a : Int) % 256) (if a ≤ b then 1 else 0)
  /-- `8XY6`: the flag is the bit that is shifted out. -/
  | half (word : w &&& 0xF00F = 0x8006) :
      w.Computes mode a b (mode.shifted a b / 2 : Nat) (mode.shifted a b % 2 : Nat)
  /-- `8XYE`: the flag is the bit that is shifted out. -/
  | double (word : w &&& 0xF00F = 0x800E) :
      w.Computes mode a b (2 * mode.shifted a b % 256 : Nat) (mode.shifted a b / 128 : Nat)

/-- The word `w` has the given result and no flag, if `VX` holds `a` and `VY` holds `b`. -/
inductive Word.Assigns (w : Word) (a b : Nat) : (result : Nat) → Prop
  /-- `7XNN`: a sum without a flag. -/
  | sum (word : w &&& 0xF000 = 0x7000) : w.Assigns a b ((a + w.toNat % 256) % 256)
  /-- `8XY0`. -/
  | copy (word : w &&& 0xF00F = 0x8000) : w.Assigns a b b
  /-- `8XY1`. -/
  | or (word : w &&& 0xF00F = 0x8001) : w.Assigns a b (a ||| b)
  /-- `8XY2`. -/
  | and (word : w &&& 0xF00F = 0x8002) : w.Assigns a b (a &&& b)
  /-- `8XY3`. -/
  | xor (word : w &&& 0xF00F = 0x8003) : w.Assigns a b (a ^^^ b)

namespace Registers

/-- The registers `after` are `before` with the result in `x` and the flag in `VF`, where the flag
goes before the result. -/
structure Flagged (before : Registers) (x : Register) (result flag : Int) (after : Registers) :
    Prop where
  flag : (after.read Register.flag).toNat = flag
  result : x ≠ Register.flag → (after.read x).toNat = result
  others : ∀ r, r ≠ x → r ≠ Register.flag → after.read r = before.read r

/-- The registers `after` are `before` with the result in `x`. -/
structure Assigned (before : Registers) (x : Register) (result : Nat) (after : Registers) :
    Prop where
  result : (after.read x).toNat = result
  others : ∀ r, r ≠ x → after.read r = before.read r

/-- The flag is written last, so it stays. -/
theorem flagged_write_write (rs : Registers) (x : Register) (value flag : UInt8) :
    rs.Flagged x value.toNat flag.toNat ((rs.write x value).write Register.flag flag) where
  flag := by rw [read_write_self]
  result other := by rw [read_write_of_ne other, read_write_self]
  others r notX notFlag := by rw [read_write_of_ne notFlag, read_write_of_ne notX]

theorem assigned_write (rs : Registers) (x : Register) (value : UInt8) :
    rs.Assigned x value.toNat (rs.write x value) where
  result := by rw [read_write_self]
  others r notX := read_write_of_ne notX rs value

end Registers

namespace Machine

/-! ## Bytes as integers -/

theorem toNat_flagByte (condition : Prop) [Decidable condition] :
    ((flagByte condition).toNat : Int) = if condition then 1 else 0 := by
  by_cases holds : condition <;> simp [flagByte, holds]

theorem toNat_sum (a b : UInt8) : ((a + b).toNat : Int) = (a.toNat + b.toNat : Int) % 256 := by
  rw [UInt8.toNat_add]
  omega

theorem toNat_difference (a b : UInt8) :
    ((a - b).toNat : Int) = (a.toNat - b.toNat : Int) % 256 := by
  have := b.toNat_lt
  rw [UInt8.toNat_sub]
  omega

theorem toNat_half (s : UInt8) : (s >>> 1).toNat = s.toNat / 2 :=
  (UInt8.toNat_shiftRight s 1).trans (Nat.shiftRight_eq_div_pow s.toNat 1)

theorem toNat_lowBit (s : UInt8) : (s &&& 1).toNat = s.toNat % 2 :=
  (UInt8.toNat_and s 1).trans (Nat.and_one_is_mod s.toNat)

theorem toNat_double (s : UInt8) : (s <<< 1).toNat = 2 * s.toNat % 256 := by
  have shifted : (s <<< 1).toNat = s.toNat <<< 1 % 256 := UInt8.toNat_shiftLeft s 1
  rw [shifted, Nat.shiftLeft_eq]
  omega

theorem toNat_highBit (s : UInt8) : (s >>> 7).toNat = s.toNat / 128 :=
  (UInt8.toNat_shiftRight s 7).trans (Nat.shiftRight_eq_div_pow s.toNat 7)

/-! ## Effects on the registers -/

/-- Executed or fetched, the word `w` of the family `opcode` takes effect and leaves `registers`.
Nothing else in the machine changes, but a step moves on. -/
structure Rewrites (m : Machine) (w : Word) (opcode : Opcode) (registers : Registers) : Prop where
  execute : ∀ byte, m.execute w byte =
    ⟨.ok (.executed opcode), { m with registers := registers }, [.executing w opcode]⟩
  step : m.Ready → m.nextWord = .ok w → ∀ byte, m.step byte =
    ⟨.ok (.executed opcode), { m with registers := registers, pc := m.pc + 2 },
      [.executing w opcode]⟩

variable {m : Machine} {w : Word} {opcode : Opcode} {registers : Registers}

/-- What an instruction does, wherever the program counter stands, is all that a step does. -/
theorem rewrites_of_performed (own : opcode ≠ .machineRoutine) (word : opcode.fixed.Matches w)
    (accepted : m.refusal opcode w = none)
    (effect : ∀ pc byte, { m with pc := pc }.performed opcode w byte =
      { m with pc := pc, registers := registers }) : m.Rewrites w opcode registers := by
  have family := (Opcode.decode_iff_matches own w).mpr word
  have announced : announcement opcode w = [.executing w opcode] :=
    congrArg (List.cons _) (if_neg own)
  constructor
  · intro byte
    rw [execute_of_accepted family accepted, effect m.pc, announced]
  · intro ready fetch byte
    have nonzero := Opcode.ne_zero_of_decode own family
    rw [step_of_accepted ready fetch nonzero family accepted, effect, announced]

theorem toNat_shiftOperand (m : Machine) (w : Word) :
    (m.shiftOperand w).toNat = m.mode.shifted (m.vx w).toNat (m.vy w).toNat := by
  cases mode : m.mode <;> simp only [shiftOperand, mode, Mode.shifted]

/-- The words with a result and a flag: `value` and `last` are the bytes that are written. -/
theorem flagged_of_performed {result flag : Int} (own : Opcode) (notRoutine : own ≠ .machineRoutine)
    (word : own.fixed.Matches w) (accepted : m.refusal own w = none) (value last : UInt8)
    (effect : ∀ pc byte, { m with pc := pc }.performed own w byte =
      { m with pc := pc, registers := (m.registers.write w.x value).write Register.flag last })
    (isResult : (value.toNat : Int) = result) (isFlag : (last.toNat : Int) = flag) :
    ∃ opcode registers, m.Rewrites w opcode registers ∧
      m.registers.Flagged w.x result flag registers := by
  refine ⟨own, _, rewrites_of_performed notRoutine word accepted effect, ?_⟩
  rw [← isResult, ← isFlag]
  exact Registers.flagged_write_write m.registers w.x value last

/-- The words with a result only: `value` is the byte that is written. -/
theorem assigned_of_performed {result : Nat} (own : Opcode) (notRoutine : own ≠ .machineRoutine)
    (word : own.fixed.Matches w) (accepted : m.refusal own w = none) (value : UInt8)
    (effect : ∀ pc byte, { m with pc := pc }.performed own w byte =
      { m with pc := pc, registers := m.registers.write w.x value })
    (isResult : value.toNat = result) :
    ∃ opcode registers, m.Rewrites w opcode registers ∧
      m.registers.Assigned w.x result registers := by
  refine ⟨own, _, rewrites_of_performed notRoutine word accepted effect, ?_⟩
  rw [← isResult]
  exact Registers.assigned_write m.registers w.x value

theorem flagged_of_computes {result flag : Int}
    (computes : w.Computes m.mode (m.vx w).toNat (m.vy w).toNat result flag) :
    ∃ opcode registers, m.Rewrites w opcode registers ∧
      m.registers.Flagged w.x result flag registers := by
  have operand := toNat_shiftOperand m w
  cases computes with
  | sum word =>
      exact flagged_of_performed .binaryAdd (by decide) word rfl _ _ (fun _ _ => rfl)
        (toNat_sum _ _) (toNat_flagByte _)
  | difference word =>
      exact flagged_of_performed .subtractYFromX (by decide) word rfl _ _ (fun _ _ => rfl)
        (toNat_difference _ _) (toNat_flagByte _)
  | oppositeDifference word =>
      exact flagged_of_performed .subtractXFromY (by decide) word rfl _ _ (fun _ _ => rfl)
        (toNat_difference _ _) (toNat_flagByte _)
  | half word =>
      exact flagged_of_performed .rightShift (by decide) word rfl _ _ (fun _ _ => rfl)
        (by rw [toNat_half, operand]) (by rw [toNat_lowBit, operand])
  | double word =>
      exact flagged_of_performed .leftShift (by decide) word rfl _ _ (fun _ _ => rfl)
        (by rw [toNat_double, operand]) (by rw [toNat_highBit, operand])

theorem assigned_of_assigns {result : Nat}
    (assigns : w.Assigns (m.vx w).toNat (m.vy w).toNat result) :
    ∃ opcode registers, m.Rewrites w opcode registers ∧
      m.registers.Assigned w.x result registers := by
  cases assigns with
  | sum word =>
      have value : (m.vx w + w.nn).toNat = ((m.vx w).toNat + w.toNat % 256) % 256 := by
        rw [UInt8.toNat_add, Word.toNat_nn]
      exact assigned_of_performed .add (by decide) word rfl _ (fun _ _ => rfl) value
  | copy word =>
      exact assigned_of_performed .setXToY (by decide) word rfl _ (fun _ _ => rfl) rfl
  | or word =>
      exact assigned_of_performed .binaryOr (by decide) word rfl _ (fun _ _ => rfl)
        (UInt8.toNat_or _ _)
  | and word =>
      exact assigned_of_performed .binaryAnd (by decide) word rfl _ (fun _ _ => rfl)
        (UInt8.toNat_and _ _)
  | xor word =>
      exact assigned_of_performed .logicalXor (by decide) word rfl _ (fun _ _ => rfl)
        (UInt8.toNat_xor _ _)

/-- **Arithmetic is exact, also when operands coincide.**  In both modes and for every content of
the registers, a word with a result and a flag leaves the flag in `VF`, and the result in `VX`
unless that is `VF`; every other register stays as it was.  A word with a result only changes `VX`
alone.  Executed or fetched, neither can fail, and nothing else in the machine changes. -/
theorem arithmetic_is_exact (m : Machine) (w : Word) :
    (∀ result flag : Int,
      w.Computes m.mode (m.vx w).toNat (m.vy w).toNat result flag →
      ∃ opcode registers, m.Rewrites w opcode registers ∧
        m.registers.Flagged w.x result flag registers) ∧
    ∀ result : Nat,
      w.Assigns (m.vx w).toNat (m.vy w).toNat result →
      ∃ opcode registers, m.Rewrites w opcode registers ∧
        m.registers.Assigned w.x result registers :=
  ⟨fun _ _ => flagged_of_computes, fun _ => assigned_of_assigns⟩

/-- With `81` in `VF`, the shift `83F6` of the older mode takes its operand from `VF` and puts the
bit that is shifted out there; `8FF4` adds `VF` to itself and keeps the flag, not the sum; and
`7FFF` counts `VF` down as it would any other register. -/
theorem operands_in_flag_register :
    let m : Machine := { powerOn.poke 512 [0x83, 0xF6] with
      registers := Registers.zeroed.write Register.flag 0x81
      mode := .chip8 }
    ((0x83F6 : Word).Computes m.mode (m.vx 0x83F6).toNat (m.vy 0x83F6).toNat 0x40 1 ∧
      (0x8FF4 : Word).Computes m.mode (m.vx 0x8FF4).toNat (m.vy 0x8FF4).toNat 2 1 ∧
      (0x7FFF : Word).Assigns (m.vx 0x7FFF).toNat (m.vy 0x7FFF).toNat 0x80 ∧
      m.Ready ∧ m.nextWord = .ok 0x83F6) ∧
    ((m.step 0).state.registers.read 3).toNat = 0x40 ∧
    ((m.step 0).state.registers.read Register.flag).toNat = 1 ∧
    (m.step 0).state.pc = 514 ∧
    ((m.execute 0x8FF4 0).state.registers.read Register.flag).toNat = 1 ∧
    ((m.execute 0x7FFF 0).state.registers.read Register.flag).toNat = 0x80 := by
  intro m
  have half : (0x83F6 : Word).Computes m.mode (m.vx 0x83F6).toNat (m.vy 0x83F6).toNat 0x40 1 :=
    @Word.Computes.half 0x83F6 .chip8 0 0x81 rfl
  have sum : (0x8FF4 : Word).Computes m.mode (m.vx 0x8FF4).toNat (m.vy 0x8FF4).toNat 2 1 :=
    @Word.Computes.sum 0x8FF4 .chip8 0x81 0x81 rfl
  have count : (0x7FFF : Word).Assigns (m.vx 0x7FFF).toNat (m.vy 0x7FFF).toNat 0x80 :=
    @Word.Assigns.sum 0x7FFF 0x81 0x81 rfl
  have fetch : m.nextWord = .ok 0x83F6 := by decide +kernel
  obtain ⟨_, _, shifts, shifted⟩ := (arithmetic_is_exact m 0x83F6).1 _ _ half
  obtain ⟨_, _, adds, added⟩ := (arithmetic_is_exact m 0x8FF4).1 _ _ sum
  obtain ⟨_, _, counts, counted⟩ := (arithmetic_is_exact m 0x7FFF).2 _ count
  refine ⟨⟨half, sum, count, ⟨rfl, rfl⟩, fetch⟩, ?_, ?_, ?_, ?_, ?_⟩
  · rw [shifts.step ⟨rfl, rfl⟩ fetch]
    exact_mod_cast shifted.result (by decide)
  · rw [shifts.step ⟨rfl, rfl⟩ fetch]
    exact_mod_cast shifted.flag
  · rw [shifts.step ⟨rfl, rfl⟩ fetch]
    rfl
  · rw [adds.execute]
    exact_mod_cast added.flag
  · rw [counts.execute]
    exact counted.result

end Machine

end Chip8
