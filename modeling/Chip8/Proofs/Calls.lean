import Chip8.Proofs.ControlFlow
import Chip8.Proofs.Decoding

/-!
# Calls and returns

A call puts its return address on top of the call stack, and as long as the stack stays higher than
it was before the call, this address and everything below it are untouched: operations push and pop
above.  The operation that brings the stack down to its old height can only be the return that
takes this address.

## Main definitions

* `Moment.isCall`, `Moment.isReturn` — the steps that call and return

## Main statements

* `isCall_step_iff`, `isReturn_step_iff` — the words that call and return
* `Course.frame`, `frame_after` — what one operation, and a list of them, leaves in place
* `Course.return_of_lowered` — only the return to an address takes it off
* `depth_after` — the height of the call stack counts calls and returns
* `calls_match_returns` — the return that ends a call goes back behind it
-/

namespace Chip8

/-- A step that executed a call. -/
def Moment.isCall (moment : Moment) : Bool :=
  moment.executed = some .subroutineCall

/-- A step that executed a return. -/
def Moment.isReturn (moment : Moment) : Bool :=
  moment.executed = some .subroutineReturn

namespace Machine

variable {m next : Machine} {executed : Option Opcode}

/-! ## One operation -/

/-- A step calls exactly if it goes on to a word `2NNN`. -/
theorem isCall_step_iff {byte : UInt8} :
    (m.moment (.step byte)).isCall ↔
      m.Ready ∧ ∃ w, m.nextWord = .ok w ∧ w &&& 0xF000 = 0x2000 := by
  rw [Moment.isCall, decide_eq_true_eq, executed_step_iff]
  refine and_congr_right fun ready => exists_congr fun w => and_congr_right fun fetch => ?_
  rw [Opcode.decode_subroutineCall_iff]
  constructor
  · rintro ⟨-, word, -⟩
    exact word
  · intro word
    refine ⟨?_, word, rfl⟩
    rintro rfl
    cases word

/-- A step returns exactly if it goes on to the word `00EE` and there is a return address. -/
theorem isReturn_step_iff {byte : UInt8} :
    (m.moment (.step byte)).isReturn ↔ m.Ready ∧ m.nextWord = .ok 0x00EE ∧ m.stack ≠ [] := by
  rw [Moment.isReturn, decide_eq_true_eq, executed_step_iff]
  refine and_congr_right fun ready => ?_
  constructor
  · rintro ⟨w, fetch, -, family, accepted⟩
    rw [(Opcode.decode_subroutineReturn_iff w).mp family] at fetch
    refine ⟨fetch, fun empty => ?_⟩
    rw [refusal, if_pos empty] at accepted
    cases accepted
  · rintro ⟨fetch, filled⟩
    exact ⟨0x00EE, fetch, by decide, (Opcode.decode_subroutineReturn_iff _).mpr rfl, if_neg filled⟩

/-- An operation leaves a return address and what is below it in place, unless it is the return to
this address. -/
theorem Course.frame {address : UInt16} {base : List UInt16} (course : Course m next executed)
    (frame : address :: base <:+ m.stack) :
    address :: base <:+ next.stack ∨
      executed = some .subroutineReturn ∧ next.pc = address ∧ next.stack = base := by
  cases course with
  | executed inside family flow =>
      cases flow with
      | call _ stack =>
          rw [stack]
          exact .inl (frame.trans (List.suffix_cons _ _))
      | back stack =>
          -- the address that is taken is this one, or one that was put above it
          change m.stack = _ at stack
          rw [stack, List.suffix_cons_iff] at frame
          rcases frame with top | below
          · cases top
            exact .inr ⟨rfl, rfl, rfl⟩
          · exact .inl below
      | jump _ stack | offset _ stack | onward _ _ _ stack =>
          rw [stack]
          exact .inl frame
  | passed _ _ stack | stayed _ stack =>
      rw [stack]
      exact .inl frame

/-- An operation that brings the call stack down to what is below a return address is the return
to this address. -/
theorem Course.return_of_lowered {address : UInt16} {base : List UInt16}
    (course : Course m next executed) (frame : address :: base <:+ m.stack)
    (lowered : next.stack.length = base.length) :
    executed = some .subroutineReturn ∧ next.pc = address ∧ next.stack = base := by
  refine (course.frame frame).resolve_left ?_
  intro kept
  have higher := kept.length_le
  rw [lowered, List.length_cons] at higher
  omega

/-- A call makes the call stack one higher, a return one lower, and nothing else changes its
height. -/
theorem Course.depth (course : Course m next executed) :
    next.stack.length + (if executed = some .subroutineReturn then 1 else 0) =
      m.stack.length + (if executed = some .subroutineCall then 1 else 0) := by
  cases course with
  | executed inside family flow =>
      cases flow with
      | call _ stack => simp [stack]
      | back stack =>
          change m.stack = _ at stack
          simp [stack]
      | jump _ stack | offset _ stack => simp [stack]
      | onward call back _ stack => simp [stack, call, back]
  | passed _ _ stack | stayed _ stack => simp [stack]

/-- A return is the word `00EE`, fetched at the program counter. -/
theorem Course.nextWord_of_return (course : Course m next executed)
    (returned : executed = some .subroutineReturn) : m.nextWord = .ok 0x00EE := by
  cases course with
  | executed inside family flow =>
      cases returned
      rw [nextWord_of_lt inside, (Opcode.decode_subroutineReturn_iff _).mp family]
  | passed | stayed => cases returned

/-- A call that was fetched inside the memory keeps the address of the next word. -/
theorem pushed_of_isCall {byte : UInt8} (called : (m.moment (.step byte)).isCall) :
    m.pc.toNat < 4095 ∧ (m.step byte).state.stack = (m.pc + 2) :: m.stack := by
  have course := step_course m byte
  rw [Moment.isCall, decide_eq_true_eq] at called
  rw [called] at course
  cases course with
  | executed inside family flow =>
      cases flow with
      | call _ stack => exact ⟨inside, stack⟩
      | onward call _ _ _ => exact absurd rfl call

/-! ## Lists of operations -/

variable {operations : List Operation}

/-- While the call stack stays above the height of `base`, a return address on `base` and all of
`base` stay in place. -/
theorem frame_after {address : UInt16} {base : List UInt16}
    (plain : ∀ operation ∈ operations, operation.isDirect = false ∧ operation.isRestart = false)
    (frame : address :: base <:+ m.stack)
    (above : ∀ moment ∈ m.history operations, base.length < moment.after.stack.length) :
    address :: base <:+ (m.after operations).stack := by
  induction operations generalizing m with
  | nil => exact frame
  | cons operation rest ih =>
      obtain ⟨fetched, goesOn⟩ := plain operation List.mem_cons_self
      have higher : base.length < (m.apply operation).state.stack.length :=
        above (m.moment operation) List.mem_cons_self
      rcases (apply_course m fetched goesOn).frame frame with kept | ⟨-, -, lowered⟩
      · exact ih (fun later mem => plain later (List.mem_cons_of_mem _ mem)) kept
          fun moment mem => above moment (List.mem_cons_of_mem _ mem)
      · -- this return would leave no more than the base
        rw [lowered] at higher
        exact absurd higher (Nat.lt_irrefl _)

/-- The height of the call stack counts the calls and the returns. -/
theorem depth_after
    (plain : ∀ operation ∈ operations, operation.isDirect = false ∧ operation.isRestart = false) :
    (m.after operations).stack.length + (m.history operations).countP Moment.isReturn =
      m.stack.length + (m.history operations).countP Moment.isCall := by
  induction operations generalizing m with
  | nil => rfl
  | cons operation rest ih =>
      obtain ⟨fetched, goesOn⟩ := plain operation List.mem_cons_self
      have one := (apply_course m fetched goesOn).depth
      have more := ih (m := (m.apply operation).state)
        fun later mem => plain later (List.mem_cons_of_mem _ mem)
      simp only [history, after_cons, List.countP_cons, Moment.isReturn, Moment.isCall,
        decide_eq_true_eq] at more ⊢
      omega

/-- **Returns match calls.**  First, let a run begin with a step that executes a call, and go on
without a word that was not fetched and without a restart.  If the call stack stays higher than
before the call until the last operation brings it back to its old height, then this operation is a
step that executes `00EE`, it goes back to the word behind the call, and the call stack is the old
one.  Second, after a reset the height of the call stack is the number of calls that were executed
less the number of returns. -/
theorem calls_match_returns (m : Machine) :
    (∀ (byte : UInt8) (rest : List Operation),
      (m.moment (.step byte)).isCall →
      (∀ operation ∈ rest, operation.isDirect = false ∧ operation.isRestart = false) →
      (∀ moment ∈ (m.history (.step byte :: rest)).dropLast,
        m.stack.length < moment.after.stack.length) →
      (m.after (.step byte :: rest)).stack.length = m.stack.length →
      ∃ last, (m.history (.step byte :: rest)).getLast? = some last ∧
        last.isReturn ∧ last.before.nextWord = .ok 0x00EE ∧
        last.after.pc.toNat = m.pc.toNat + 2 ∧ last.after.stack = m.stack) ∧
    ∀ (clearMemory : Bool) (operations : List Operation),
      (∀ operation ∈ operations, operation.isDirect = false ∧ operation.isRestart = false) →
      let start := (m.reset clearMemory).state
      (start.after operations).stack.length + (start.history operations).countP Moment.isReturn =
        (start.history operations).countP Moment.isCall := by
  constructor
  · intro byte rest called plain above back
    obtain ⟨inside, pushed⟩ := pushed_of_isCall called
    rcases List.eq_nil_or_concat rest with rfl | ⟨middle, last, rfl⟩
    · -- the call alone leaves the stack higher, so another operation must come last
      rw [after_cons, after_nil, apply, pushed, List.length_cons] at back
      omega
    · rw [List.concat_eq_append, ← List.cons_append] at above back ⊢
      rw [history_concat, List.dropLast_concat] at above
      rw [after_concat] at back
      rw [history_concat, List.getLast?_concat]
      obtain ⟨fetched, goesOn⟩ := plain last (by simp)
      have kept : (m.pc + 2) :: m.stack <:+ ((m.step byte).state.after middle).stack := by
        refine frame_after (fun operation mem => plain operation (by simp [mem])) ?_
          fun moment mem => above moment (List.mem_cons_of_mem _ mem)
        exact ⟨[], pushed.symm⟩
      have course := apply_course (m.after (.step byte :: middle)) fetched goesOn
      obtain ⟨executed, pc, stack⟩ := course.return_of_lowered kept back
      refine ⟨_, rfl, decide_eq_true executed, course.nextWord_of_return executed, ?_, stack⟩
      show UInt16.toNat _ = _
      rw [moment, pc, toNat_add_two (by omega)]
  · intro clearMemory operations plain start
    have depth := depth_after (m := start) plain
    have empty : start.stack = [] := rfl
    rwa [empty, List.length_nil, Nat.zero_add] at depth

/-- A subroutine that calls another one, with a clock tick and a key in between, comes back behind
its call; and so the calls and returns of the same program, written to memory after a reset, are
counted. -/
theorem nested_calls_match_returns :
    let program : List UInt8 := [0x22, 0x04, 0x00, 0x00, 0x22, 0x08, 0x00, 0xEE, 0x00, 0xEE]
    let m := powerOn.poke 512 program
    let start := (powerOn.reset true).state
    let rest : List Operation := [.clock, .step 0, .keyDown 3, .step 0, .step 0]
    let run : List Operation := [.poke 512 program, .step 0, .step 0, .step 0]
    (∃ last, (m.history (.step 0 :: rest)).getLast? = some last ∧
      last.isReturn ∧ last.before.nextWord = .ok 0x00EE ∧
      last.after.pc.toNat = m.pc.toNat + 2 ∧ last.after.stack = m.stack) ∧
    (start.after run).stack.length + (start.history run).countP Moment.isReturn =
      (start.history run).countP Moment.isCall := by
  intro program m start rest run
  have called : (m.moment (.step 0)).isCall := by decide +kernel
  have above : ∀ moment ∈ (m.history (.step 0 :: rest)).dropLast,
      m.stack.length < moment.after.stack.length := by decide +kernel
  have back : (m.after (.step 0 :: rest)).stack.length = m.stack.length := by decide +kernel
  refine ⟨(calls_match_returns m).1 0 rest called (by decide) above back, ?_⟩
  exact (calls_match_returns powerOn).2 true run (by decide)

end Machine

end Chip8
