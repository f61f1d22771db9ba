import Chip8.Machine.Perform

/-!
# Effects that can fail

Five families can fail: a return takes an address off the call stack, and four families access a
range of memory at the index.  Each is a sequence of effects whose first can fail and whose others
cannot.  So an instruction that fails has done nothing yet, and whether it fails, and how, can be
read off the state before: the call stack, the index and the word decide it.

## Main definitions

* `Machine.rangeRefusal` — the error of an access to a range at the index, if it is none
* `Machine.refusal` — the error of an instruction, if it fails
* `Machine.performed` — the state after an instruction, if it does not fail

## Main statements

* `perform_of_refusal`, `perform_eq_performed` — an instruction with a refusal fails in the state
  before, and every other one leads to `performed`
* `perform_eq_error_iff`, `perform_eq_ok_iff` — so the state before decides which of the two it is
* `returnFromCall_cons`, `drawAtIndex_of_accepted`, `storeDigits_of_accepted`,
  `storeBlock_of_accepted`, `loadBlock_of_accepted` — what the five families do otherwise
-/

namespace Chip8.Machine

/-! ## Sequences -/

section Sequence

variable {α β : Type} {x : Effect α} {f : α → Effect β} {m next : Machine}

theorem bind_of_ok {a : α} (first : x m = .ok a next) : (x >>= f) m = f a next := by
  change EStateM.bind x f m = f a next
  simp only [EStateM.bind, first]

/-- A sequence fails with its first effect, in the state that this effect left. -/
theorem bind_of_error {e : Error} (first : x m = .error e next) :
    (x >>= f) m = .error e next := by
  change EStateM.bind x f m = .error e next
  simp only [EStateM.bind, first]

/-- Reading the state does not fail and changes nothing. -/
theorem get_eq (m : Machine) : (get : Effect Machine) m = .ok m m := rfl

theorem ofExcept_of_ok {access : Except Error α} {a : α} (h : access = .ok a) :
    (MonadExcept.ofExcept access : Effect α) m = .ok a m := by
  rw [h]
  rfl

theorem ofExcept_of_error {access : Except Error α} {e : Error} (h : access = .error e) :
    (MonadExcept.ofExcept access : Effect α) m = .error e m := by
  rw [h]
  rfl

end Sequence

/-! ## Ranges at the index -/

/-- The error of an access to the `count` bytes at the index, unless they are in the memory. -/
def rangeRefusal (m : Machine) (count : Nat) : Option Error :=
  if m.index.toNat + count ≤ Memory.size then none else some (Memory.rangeFault m.index.toNat)

/-- The `count` bytes at the index, zero where there is none. -/
def bytesAtIndex (m : Machine) (count : Nat) : List UInt8 :=
  (List.range count).map fun i => m.memory.byte (m.index.toNat + i)

section Range

variable {m : Machine} {count : Nat} {bytes : List UInt8} {e : Error}

theorem rangeRefusal_eq_none_iff :
    m.rangeRefusal count = none ↔ m.index.toNat + count ≤ Memory.size := by
  simp [rangeRefusal]

theorem rangeRefusal_eq_some_iff :
    m.rangeRefusal count = some e ↔
      Memory.size < m.index.toNat + count ∧ e = Memory.rangeFault m.index.toNat := by
  by_cases h : m.index.toNat + count ≤ Memory.size
  · simp [rangeRefusal, h, Nat.not_lt_of_le h]
  · simp [rangeRefusal, h, Nat.lt_of_not_le h, eq_comm]

theorem readAtIndex_of_accepted (h : m.rangeRefusal count = none) :
    readAtIndex count m = .ok (m.bytesAtIndex count) m := by
  have slice : m.memory.slice m.index.toNat count = .ok (m.bytesAtIndex count) :=
    if_pos (rangeRefusal_eq_none_iff.mp h)
  rw [readAtIndex, bind_of_ok (get_eq m), ofExcept_of_ok slice]

theorem readAtIndex_of_refused (h : m.rangeRefusal count = some e) :
    readAtIndex count m = .error e m := by
  obtain ⟨outside, rfl⟩ := rangeRefusal_eq_some_iff.mp h
  have slice : m.memory.slice m.index.toNat count = .error (Memory.rangeFault m.index.toNat) :=
    if_neg (Nat.not_le_of_lt outside)
  rw [readAtIndex, bind_of_ok (get_eq m), ofExcept_of_error slice]

theorem writeAtIndex_of_accepted (h : m.rangeRefusal bytes.length = none) :
    writeAtIndex bytes m = .ok () { m with memory := m.memory.overwrite m.index.toNat bytes } := by
  have store : m.memory.store m.index.toNat bytes =
      .ok (m.memory.overwrite m.index.toNat bytes) := if_pos (rangeRefusal_eq_none_iff.mp h)
  rw [writeAtIndex, bind_of_ok (get_eq m), bind_of_ok (ofExcept_of_ok store)]
  rfl

theorem writeAtIndex_of_refused (h : m.rangeRefusal bytes.length = some e) :
    writeAtIndex bytes m = .error e m := by
  obtain ⟨outside, rfl⟩ := rangeRefusal_eq_some_iff.mp h
  have store : m.memory.store m.index.toNat bytes = .error (Memory.rangeFault m.index.toNat) :=
    if_neg (Nat.not_le_of_lt outside)
  rw [writeAtIndex, bind_of_ok (get_eq m), bind_of_error (ofExcept_of_error store)]

end Range

/-! ## The families that can fail -/

section Families

variable {m : Machine} {w : Word} {e : Error}

theorem returnFromCall_nil (empty : m.stack = []) :
    returnFromCall m = .error .stackUnderflow m := by
  -- taking from an empty stack leaves an empty stack, so the state is still the same
  have popped : popAddress m = .ok none m := by
    change EStateM.Result.ok m.stack.head? { m with stack := m.stack.tail } = .ok none m
    have head : m.stack.head? = none := by rw [empty, List.head?_nil]
    have tail : m.stack.tail = m.stack := by rw [empty, List.tail_nil]
    rw [head, tail]
  rw [returnFromCall, bind_of_ok popped]
  rfl

theorem returnFromCall_cons {address : UInt16} {rest : List UInt16}
    (stack : m.stack = address :: rest) :
    returnFromCall m = .ok () { m with pc := address, stack := rest } := by
  have popped : popAddress m = .ok (some address) { m with stack := rest } := by
    change EStateM.Result.ok m.stack.head? { m with stack := m.stack.tail } = _
    rw [stack, List.head?_cons, List.tail_cons]
  rw [returnFromCall, bind_of_ok popped]
  rfl

theorem drawAtIndex_of_accepted (h : m.rangeRefusal w.n = none) :
    drawAtIndex w m =
      let drawn := m.screen.draw (m.vx w).toNat (m.vy w).toNat (m.bytesAtIndex w.n)
      .ok () { m with
        screen := drawn.1
        registers := m.registers.write Register.flag (flagByte drawn.2) } := by
  rw [drawAtIndex, bind_of_ok (get_eq m), bind_of_ok (readAtIndex_of_accepted h)]
  rfl

theorem drawAtIndex_of_refused (h : m.rangeRefusal w.n = some e) :
    drawAtIndex w m = .error e m := by
  rw [drawAtIndex, bind_of_ok (get_eq m), bind_of_error (readAtIndex_of_refused h)]

theorem storeDigits_of_accepted (h : m.rangeRefusal 3 = none) :
    storeDigits w m = .ok () { m with
      memory := m.memory.overwrite m.index.toNat (decimalDigits (m.vx w)) } := by
  rw [storeDigits, bind_of_ok (get_eq m), writeAtIndex_of_accepted h]

theorem storeDigits_of_refused (h : m.rangeRefusal 3 = some e) :
    storeDigits w m = .error e m := by
  rw [storeDigits, bind_of_ok (get_eq m), writeAtIndex_of_refused h]

/-- There are as many registers up to `VX` as bytes are transferred. -/
theorem length_lowest_transferCount (rs : Registers) (w : Word) :
    (rs.lowest (transferCount w)).length = transferCount w := by
  have := w.x.isLt
  simp only [Registers.lowest, Registers.toList, transferCount, List.length_take,
    Vector.length_toList]
  omega

theorem storeBlock_of_accepted (h : m.rangeRefusal (transferCount w) = none) :
    storeBlock w m = .ok () { m with
      memory := m.memory.overwrite m.index.toNat (m.registers.lowest (transferCount w))
      index := m.nextIndex (transferCount w) } := by
  -- the write checks the number of the bytes it is given
  rw [← length_lowest_transferCount m.registers w] at h
  rw [storeBlock, bind_of_ok (get_eq m), bind_of_ok (writeAtIndex_of_accepted h)]
  rfl

theorem storeBlock_of_refused (h : m.rangeRefusal (transferCount w) = some e) :
    storeBlock w m = .error e m := by
  rw [← length_lowest_transferCount m.registers w] at h
  rw [storeBlock, bind_of_ok (get_eq m), bind_of_error (writeAtIndex_of_refused h)]

theorem loadBlock_of_accepted (h : m.rangeRefusal (transferCount w) = none) :
    loadBlock w m = .ok () { m with
      registers := m.registers.load (m.bytesAtIndex (transferCount w))
      index := m.nextIndex (transferCount w) } := by
  rw [loadBlock, bind_of_ok (readAtIndex_of_accepted h)]
  rfl

theorem loadBlock_of_refused (h : m.rangeRefusal (transferCount w) = some e) :
    loadBlock w m = .error e m := by
  rw [loadBlock, bind_of_error (readAtIndex_of_refused h)]

end Families

/-! ## Refusals -/

/-- The error of the instruction `w` of the family `opcode`, if it fails. -/
def refusal (m : Machine) (opcode : Opcode) (w : Word) : Option Error :=
  match opcode with
  | .subroutineReturn => if m.stack = [] then some .stackUnderflow else none
  | .draw => m.rangeRefusal w.n
  | .binaryCodedDecimal => m.rangeRefusal 3
  | .store | .load => m.rangeRefusal (transferCount w)
  | _ => none

/-- Where the program counter stands has no part in whether an instruction fails. -/
theorem refusal_moved (m : Machine) (pc : UInt16) (opcode : Opcode) (w : Word) :
    { m with pc := pc }.refusal opcode w = m.refusal opcode w := rfl

/-- The number of bytes that an instruction accesses at the index. -/
def accessLength (opcode : Opcode) (w : Word) : Nat :=
  match opcode with
  | .draw => w.n
  | .binaryCodedDecimal => 3
  | .store | .load => transferCount w
  | _ => 0

/-- An instruction that fails leaves everything as it was. -/
theorem perform_of_refusal {m : Machine} {opcode : Opcode} {w : Word} {e : Error}
    (h : m.refusal opcode w = some e) (byte : UInt8) :
    m.perform opcode w byte = .error e m := by
  cases opcode with
  | subroutineReturn =>
      by_cases empty : m.stack = []
      · rw [refusal, if_pos empty, Option.some.injEq] at h
        rw [perform, returnFromCall_nil empty, h]
      · simp [refusal, empty] at h
  | draw => exact drawAtIndex_of_refused h
  | binaryCodedDecimal => exact storeDigits_of_refused h
  | store => exact storeBlock_of_refused h
  | load => exact loadBlock_of_refused h
  | _ => cases h

/-- The state after the instruction `w` of the family `opcode`, if it does not fail. -/
def performed (m : Machine) (opcode : Opcode) (w : Word) (byte : UInt8) : Machine :=
  match opcode with
  | .subroutineReturn => { m with pc := m.stack.headD m.pc, stack := m.stack.tail }
  | .draw =>
    let drawn := m.screen.draw (m.vx w).toNat (m.vy w).toNat (m.bytesAtIndex w.n)
    { m with
      screen := drawn.1
      registers := m.registers.write Register.flag (flagByte drawn.2) }
  | .binaryCodedDecimal =>
    { m with memory := m.memory.overwrite m.index.toNat (decimalDigits (m.vx w)) }
  | .store =>
    { m with
      memory := m.memory.overwrite m.index.toNat (m.registers.lowest (transferCount w))
      index := m.nextIndex (transferCount w) }
  | .load =>
    { m with
      registers := m.registers.load (m.bytesAtIndex (transferCount w))
      index := m.nextIndex (transferCount w) }
  | other =>
    match m.perform other w byte with
    | .ok () next | .error _ next => next

theorem perform_eq_performed {m : Machine} {opcode : Opcode} {w : Word}
    (accepted : m.refusal opcode w = none) (byte : UInt8) :
    m.perform opcode w byte = .ok () (m.performed opcode w byte) := by
  cases opcode with
  | subroutineReturn =>
      cases stack : m.stack with
      | nil => simp [refusal, stack] at accepted
      | cons address rest =>
          rw [performed, stack]
          exact returnFromCall_cons stack
  | draw => exact drawAtIndex_of_accepted accepted
  | binaryCodedDecimal => exact storeDigits_of_accepted accepted
  | store => exact storeBlock_of_accepted accepted
  | load => exact loadBlock_of_accepted accepted
  | _ => rfl

/-- An instruction fails with the error that the state before gives it, and with the state as it
was. -/
theorem perform_eq_error_iff {m left : Machine} {opcode : Opcode} {w : Word} {byte : UInt8}
    {e : Error} :
    m.perform opcode w byte = .error e left ↔ m.refusal opcode w = some e ∧ left = m := by
  cases refused : m.refusal opcode w with
  | some cause =>
      rw [perform_of_refusal refused, EStateM.Result.error.injEq, Option.some.injEq,
        eq_comm (a := m)]
  | none =>
      simp [perform_eq_performed refused]

/-- All bytes that an instruction accesses at the index are in the memory, if it does not fail. -/
theorem access_of_accepted {m : Machine} {opcode : Opcode} {w : Word}
    (accepted : m.refusal opcode w = none) {i : Nat} (h : i < accessLength opcode w) :
    m.index.toNat + i < Memory.size := by
  have inside (count : Nat) (fits : m.rangeRefusal count = none) (below : i < count) :
      m.index.toNat + i < Memory.size := by
    have := rangeRefusal_eq_none_iff.mp fits
    omega
  cases opcode with
  | draw => exact inside _ accepted h
  | binaryCodedDecimal => exact inside _ accepted h
  | store => exact inside _ accepted h
  | load => exact inside _ accepted h
  | _ => exact absurd h (Nat.not_lt_zero i)

theorem refusal_eq_none_of_ok {m next : Machine} {opcode : Opcode} {w : Word} {byte : UInt8}
    (effect : m.perform opcode w byte = .ok () next) : m.refusal opcode w = none := by
  cases refused : m.refusal opcode w with
  | none => rfl
  | some e =>
      rw [perform_of_refusal refused] at effect
      cases effect

/-- An instruction takes effect if the state before does not refuse it, and then that state
determines the one after. -/
theorem perform_eq_ok_iff {m next : Machine} {opcode : Opcode} {w : Word} {byte : UInt8} :
    m.perform opcode w byte = .ok () next ↔
      m.refusal opcode w = none ∧ next = m.performed opcode w byte := by
  constructor
  · intro effect
    have accepted := refusal_eq_none_of_ok effect
    rw [perform_eq_performed accepted, EStateM.Result.ok.injEq] at effect
    exact ⟨accepted, effect.2.symm⟩
  · rintro ⟨accepted, rfl⟩
    exact perform_eq_performed accepted byte

end Chip8.Machine
