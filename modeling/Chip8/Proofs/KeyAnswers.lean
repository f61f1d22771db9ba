import Chip8.Proofs.Frames
import Chip8.Proofs.LifeCycle
import Chip8.Proofs.Restart
import Chip8.Proofs.Turns

/-!
# Keys that answer waits

At the terminal a key that is held sends events again and again.  It answers a wait only if it was
up before: a press or a repetition of a key that is held tells the machine nothing, so that the next
wait goes on until the key has been released, by an event or because it has not been seen for a
while.

Four things can be read off a turn of a session: the key that goes down in it, the key that answers
a wait in it, the keys that are released in it, and the instructions that are executed in it.
Whether a wait is answered or a key is released is told by the sessions before and after the turn,
so that the laws below connect what happens with what it comes to.

## Main definitions

* `Session.Action.downKey?`, `Turn.freshKey?` — the key of a press or a repetition, and whether it
  was up
* `Turn.answer?` — the key that ends a wait
* `Turn.Releases` — a key goes up, by an event or because it is old
* `Turn.executed` — the families of the instructions that are executed
* `Machine.pendingWaits` — how many registers wait

## Main statements

* `Turn.awaiting_of_fresh`, `Turn.awaiting_of_not_fresh` — what ends a wait, and what does not
* `Turn.releases_of_lost` — what can release a key
* `Turn.pendingWaits_after` — a wait that is answered was begun
* `held_key_answers_one_wait` — all of this in a whole session
-/

namespace Chip8

/-! ## Waits of the machine -/

namespace Machine

variable {m : Machine} {byte : UInt8}

/-- How many registers wait for a key. -/
def pendingWaits (m : Machine) : Nat :=
  if m.awaiting.isSome then 1 else 0

theorem pendingWaits_congr {n : Machine} (awaiting : n.awaiting = m.awaiting) :
    n.pendingWaits = m.pendingWaits := by
  rw [pendingWaits, pendingWaits, awaiting]

/-- A step begins as many waits as it executes instructions `FX0A`. -/
theorem pendingWaits_step (m : Machine) (byte : UInt8) :
    (m.step byte).state.pendingWaits =
      m.pendingWaits + (m.moment (.step byte)).executed.toList.count .getKey := by
  by_cases begins : (m.moment (.step byte)).executed = some .getKey
  · obtain ⟨ready, -, w, -, -, -, latch⟩ := step_of_getKey begins
    rw [begins, pendingWaits, pendingWaits, latch, ready.free]
    rfl
  · have keypad := step_keypad (step_result_of_executed begins)
    have none : .getKey ∉ (m.moment (.step byte)).executed.toList := by
      rwa [Option.mem_toList]
    rw [pendingWaits_congr (congrArg Keypad.awaiting keypad), List.count_eq_zero.mpr none,
      Nat.add_zero]

theorem pendingWaits_after {operations : List Operation}
    (plain : ∀ operation ∈ operations, operation = .clock ∨ ∃ byte, operation = .step byte) :
    (m.after operations).pendingWaits =
      m.pendingWaits + (m.executed operations).count .getKey := by
  induction operations generalizing m with
  | nil => rfl
  | cons operation rest ih =>
      have later := ih (m := (m.apply operation).state)
        fun other mem => plain other (List.mem_cons_of_mem _ mem)
      rw [after_cons, later, executed_cons, List.count_append, ← Nat.add_assoc]
      rcases plain operation List.mem_cons_self with rfl | ⟨byte, rfl⟩
      · rfl
      · exact congrArg (· + _) (pendingWaits_step m byte)

end Machine

namespace Session

variable {s : Session} {k : Key} {target : Register}

/-! ## Key events -/

/-- The key that goes down with the action, or is repeated. -/
def Action.downKey? : Action → Option Key
  | .key e => if e.kind = .release then none else e.code.key?
  | _ => none

/-- What a key event does to the session. -/
inductive Received (s : Session) (e : KeyEvent) : Session → Prop
  | down (k : Key) (own : (Action.key e).downKey? = some k) : Received s e (s.keyDown k).state
  | up (k : Key) (own : e.code.key? = some k) (released : e.kind = .release)
      (notDown : (Action.key e).downKey? = none) : Received s e (s.keyUp k)
  | ignored (notDown : (Action.key e).downKey? = none) : Received s e s

theorem received (s : Session) (e : KeyEvent) : Received s e (s.receive e).state := by
  unfold receive
  split
  · next escape => exact .ignored (by simp [Action.downKey?, escape, KeyCode.key?])
  · cases own : e.code.key? with
    | none => exact .ignored (by simp [Action.downKey?, own])
    | some k =>
        cases kind : e.kind with
        | press => exact .down k (by simp [Action.downKey?, kind, own])
        | held => exact .down k (by simp [Action.downKey?, kind, own])
        | release => exact .up k own kind (by simp [Action.downKey?, kind])

/-- A key that is held already tells the machine nothing. -/
theorem machine_keyDown_of_held (held : s.machine.keypad.isHeld k = true) :
    (s.keyDown k).state.machine = s.machine := by
  rw [keyDown, if_pos held]

theorem machine_keyDown_of_not_held (up : s.machine.keypad.isHeld k = false) :
    (s.keyDown k).state.machine = (s.machine.keyDown k).state := by
  rw [keyDown, up, if_neg Bool.false_ne_true]

/-- While a register waits, the instructions of a frame come to nothing, and only the timers go
on. -/
theorem run_of_awaiting (awaited : s.machine.awaiting = some target) (count : Nat) :
    s.SameButTimers (s.run count).state := by
  have same := (steps_run s count).2
  rwa [steps_of_idle (.inr (Machine.not_ready_of_awaiting awaited))] at same

/-! ## Keys that go up -/

theorem expired_of_releaseIfExpired {l : Key} (expired : (s.releaseIfExpired l).expired k = true) :
    s.expired k = true := by
  unfold Session.expired at expired ⊢
  rw [frame_releaseIfExpired] at expired
  rw [Option.any_eq_true] at expired ⊢
  obtain ⟨since, seen, old⟩ := expired
  exact ⟨since, (seen_releaseIfExpired_iff.mp seen).1, old⟩

theorem releaseStale_of_unreported (unreported : s.reportsReleases = false) :
    s.releaseStale = (List.finRange 16).foldl releaseIfExpired s := by
  rw [releaseStale, unreported, if_neg Bool.false_ne_true]
  rfl

/-- A key that goes up when old keys are released is old. -/
theorem expired_of_lost {keys : List Key} (held : s.machine.keypad.isHeld k = true)
    (lost : (keys.foldl releaseIfExpired s).machine.keypad.isHeld k = false) :
    s.expired k = true := by
  induction keys generalizing s with
  | nil => cases held.symm.trans lost
  | cons l rest ih =>
      cases kept : (s.releaseIfExpired l).machine.keypad.isHeld k with
      | true => exact expired_of_releaseIfExpired (ih kept lost)
      | false =>
          unfold releaseIfExpired at kept
          split at kept
          · next old =>
            rw [isHeld_keyUp, held, Bool.and_true, Bool.not_eq_false', decide_eq_true_eq] at kept
            rwa [kept]
          · cases held.symm.trans kept

/-- The instructions of a frame and its tick release no key. -/
theorem isHeld_run_frame (s : Session) (count : Nat) (k : Key) :
    (s.run count).state.machine.keypad.isHeld k = s.machine.keypad.isHeld k := by
  unfold run
  split
  · rfl
  · exact isHeld_run s.machine s.entropy count k

/-! ## What can be read off a turn -/

namespace Turn

/-- The key that goes down in the turn, if it was not held. -/
def freshKey? (turn : Turn) : Option Key :=
  turn.action.downKey?.filter fun k => !turn.before.machine.keypad.isHeld k

/-- The key that ends a wait in the turn. -/
def answer? (turn : Turn) : Option Key :=
  if turn.before.machine.awaiting.isSome && turn.after.machine.awaiting.isNone then
    turn.action.downKey?
  else none

/-- The key was held and goes up, because a release has been reported or because it has not been
seen for a while. -/
structure Releases (turn : Turn) (k : Key) : Prop where
  held : turn.before.machine.keypad.isHeld k = true
  released : turn.after.machine.keypad.isHeld k = false
  cause : (∃ e : KeyEvent, turn.action = .key e ∧ e.code.key? = some k ∧ e.kind = .release) ∨
    turn.action = .releaseStale ∧ turn.before.reportsReleases = false ∧
      turn.before.expired k = true

/-- The families of the instructions that are executed in the turn. -/
def executed (turn : Turn) : List Opcode :=
  match turn.action with
  | .run count => turn.before.machine.executed (turn.before.operations count)
  | _ => []

variable {turn : Turn}

theorem freshKey?_eq_some_iff : turn.freshKey? = some k ↔
    turn.action.downKey? = some k ∧ turn.before.machine.keypad.isHeld k = false := by
  simp [freshKey?, Option.filter_eq_some_iff]

/-! ## Ends of waits -/

/-- Nothing but a key that was up ends a wait, and until then no register changes. -/
theorem awaiting_of_not_fresh (noLoad : turn.action.isLoad = false)
    (awaited : turn.before.machine.awaiting = some target) (notFresh : turn.freshKey? = none) :
    turn.after.machine.awaiting = some target ∧
      turn.after.machine.registers = turn.before.machine.registers := by
  obtain ⟨s, action⟩ := turn
  cases action with
  | load image => cases noLoad
  | key e =>
      change (s.receive e).state.machine.awaiting = some target ∧
        (s.receive e).state.machine.registers = s.machine.registers
      have effect := s.received e
      generalize (s.receive e).state = next at effect ⊢
      cases effect with
      | down k own =>
          have held : s.machine.keypad.isHeld k = true := by
            by_contra up
            have fresh : freshKey? ⟨s, .key e⟩ = some k :=
              freshKey?_eq_some_iff.mpr ⟨own, by simpa using up⟩
            rw [notFresh] at fresh
            cases fresh
          rw [machine_keyDown_of_held held]
          exact ⟨awaited, rfl⟩
      | up k own released notDown => exact ⟨awaited, rfl⟩
      | ignored notDown => exact ⟨awaited, rfl⟩
  | releaseStale =>
      have frozen := frozen_releaseStale s
      have registers : s.releaseStale.machine.registers = s.machine.registers := by
        rw [frozen.others]
      exact ⟨frozen.awaiting.trans awaited, registers⟩
  | run count =>
      have same := run_of_awaiting awaited count
      have registers : (s.run count).state.machine.registers = s.machine.registers := by
        rw [same.machine]
        rfl
      exact ⟨same.machine.inStep.awaiting.trans awaited, registers⟩
  | setMode mode | setFrame frame | setReportsReleases reportsReleases => exact ⟨awaited, rfl⟩

theorem after_of_fresh (fresh : turn.freshKey? = some k) :
    turn.after = (turn.before.keyDown k).state := by
  obtain ⟨s, action⟩ := turn
  obtain ⟨own, -⟩ := freshKey?_eq_some_iff.mp fresh
  cases action with
  | key e =>
      change (s.receive e).state = (s.keyDown k).state
      have effect := s.received e
      generalize (s.receive e).state = next at effect ⊢
      cases effect with
      | down l other => rw [Option.some.inj (other.symm.trans own)]
      | up l other released notDown => cases notDown.symm.trans own
      | ignored notDown => cases notDown.symm.trans own
  | _ => cases own

/-- A key that was up and goes down ends the wait, and the register then reads its number. -/
theorem awaiting_of_fresh (awaited : turn.before.machine.awaiting = some target)
    (fresh : turn.freshKey? = some k) :
    turn.after.machine.awaiting = none ∧
      (turn.after.machine.registers.read target).toNat = k.val ∧
      ∀ r, r ≠ target →
        turn.after.machine.registers.read r = turn.before.machine.registers.read r := by
  obtain ⟨-, up⟩ := freshKey?_eq_some_iff.mp fresh
  rw [after_of_fresh fresh, machine_keyDown_of_not_held up, Machine.keyDown_of_awaiting awaited]
  exact ⟨rfl, Machine.read_write_index turn.before.machine.registers target k⟩

theorem isHeld_of_fresh (fresh : turn.freshKey? = some k) :
    turn.after.machine.keypad.isHeld k = true := by
  rw [after_of_fresh fresh, isHeld_keyDown, decide_eq_true rfl, Bool.true_or]

/-- The key that answers a wait was up. -/
theorem fresh_of_answer (answers : turn.answer? = some k) : turn.freshKey? = some k := by
  unfold answer? at answers
  split at answers
  · next ends =>
    obtain ⟨before, after⟩ := Bool.and_eq_true_iff.mp ends
    obtain ⟨target, awaited⟩ := Option.isSome_iff_exists.mp before
    have noLoad : turn.action.isLoad = false := by
      cases action : turn.action with
      | load image =>
          rw [action] at answers
          cases answers
      | _ => rfl
    cases fresh : turn.freshKey? with
    | none =>
        -- otherwise the wait would go on
        rw [(awaiting_of_not_fresh noLoad awaited fresh).1] at after
        cases after
    | some l =>
        obtain ⟨own, -⟩ := freshKey?_eq_some_iff.mp fresh
        rw [← answers, own]
  · cases answers

/-- And such a key answers it. -/
theorem answer_of_fresh (awaited : turn.before.machine.awaiting = some target)
    (fresh : turn.freshKey? = some k) : turn.answer? = some k := by
  rw [answer?, awaited, (awaiting_of_fresh awaited fresh).1]
  exact (freshKey?_eq_some_iff.mp fresh).1

/-! ## Releases -/

/-- A key goes up with a release or because it is old, and in no other way. -/
theorem releases_of_lost (held : turn.before.machine.keypad.isHeld k = true)
    (lost : turn.after.machine.keypad.isHeld k = false) : turn.Releases k := by
  refine ⟨held, lost, ?_⟩
  obtain ⟨s, action⟩ := turn
  change s.machine.keypad.isHeld k = true at held
  cases action with
  | load image =>
      have kept := (Machine.startedOver_load s.machine image).held k
      cases (kept.trans held).symm.trans lost
  | key e =>
      change (s.receive e).state.machine.keypad.isHeld k = false at lost
      have effect := s.received e
      generalize (s.receive e).state = next at effect lost
      cases effect with
      | down l own =>
          rw [isHeld_keyDown, held, Bool.or_true] at lost
          cases lost
      | up l own released notDown =>
          rw [isHeld_keyUp, held, Bool.and_true, Bool.not_eq_false', decide_eq_true_eq] at lost
          exact .inl ⟨e, rfl, lost ▸ own, released⟩
      | ignored notDown => cases held.symm.trans lost
  | releaseStale =>
      change s.releaseStale.machine.keypad.isHeld k = false at lost
      cases told : s.reportsReleases with
      | true =>
          rw [releaseStale, told, if_pos rfl, held] at lost
          cases lost
      | false =>
          rw [releaseStale_of_unreported told] at lost
          have old : s.expired k = true := expired_of_lost held lost
          exact .inr ⟨rfl, rfl, old⟩
  | run count =>
      change (s.run count).state.machine.keypad.isHeld k = false at lost
      rw [isHeld_run_frame, held] at lost
      cases lost
  | setMode mode | setFrame frame | setReportsReleases reportsReleases =>
      cases held.symm.trans lost

/-! ## Waits and answers -/

/-- While nothing waits, only instructions can begin a wait. -/
theorem awaiting_of_free (noLoad : turn.action.isLoad = false)
    (noRun : ∀ count, turn.action ≠ .run count) (free : turn.before.machine.awaiting = none) :
    turn.after.machine.awaiting = none := by
  obtain ⟨s, action⟩ := turn
  cases action with
  | load image => cases noLoad
  | key e => exact (frozen_receive free e).awaiting.trans free
  | releaseStale => exact (frozen_releaseStale s).awaiting.trans free
  | run count => exact absurd rfl (noRun count)
  | setMode mode | setFrame frame | setReportsReleases reportsReleases => exact free

theorem pendingWaits_after_run (s : Session) (count : Nat) :
    (s.run count).state.machine.pendingWaits =
      s.machine.pendingWaits + (executed ⟨s, .run count⟩).count .getKey := by
  rw [← after_operations s count]
  exact Machine.pendingWaits_after fun _ => mem_operations

theorem executed_of_not_run (noRun : ∀ count, turn.action ≠ .run count) : turn.executed = [] := by
  unfold executed
  split
  · next count run => exact absurd run (noRun count)
  · rfl

/-- A wait that is begun is pending or has been answered. -/
theorem pendingWaits_after (turn : Turn) (noLoad : turn.action.isLoad = false) :
    (if turn.answer?.isSome then 1 else 0) + turn.after.machine.pendingWaits =
      turn.before.machine.pendingWaits + turn.executed.count .getKey := by
  by_cases run : ∃ count, turn.action = .run count
  · obtain ⟨s, action⟩ := turn
    obtain ⟨count, rfl⟩ := run
    have noAnswer : answer? ⟨s, .run count⟩ = none := ite_self _
    rw [noAnswer]
    exact (Nat.zero_add _).trans (pendingWaits_after_run s count)
  · have noRun (count : Nat) : turn.action ≠ .run count := fun same => run ⟨count, same⟩
    rw [executed_of_not_run noRun, List.count_nil, Nat.add_zero]
    cases awaited : turn.before.machine.awaiting with
    | none =>
        have after := awaiting_of_free noLoad noRun awaited
        have noAnswer : turn.answer? = none := by
          rw [answer?, awaited]
          rfl
        rw [noAnswer, Machine.pendingWaits_congr (after.trans awaited.symm)]
        exact Nat.zero_add _
    | some target =>
        cases fresh : turn.freshKey? with
        | none =>
            have after := (awaiting_of_not_fresh noLoad awaited fresh).1
            have noAnswer : turn.answer? = none := by
              rw [answer?, awaited, after]
              rfl
            rw [noAnswer, Machine.pendingWaits_congr (after.trans awaited.symm)]
            exact Nat.zero_add _
        | some k =>
            rw [answer_of_fresh awaited fresh, Machine.pendingWaits, Machine.pendingWaits,
              (awaiting_of_fresh awaited fresh).1, awaited]
            rfl

end Turn

theorem waits_answered_or_pending {actions : List Action}
    (noLoad : ∀ action ∈ actions, action.isLoad = false) :
    ((s.turns actions).countP fun turn => turn.answer?.isSome) +
        (s.afterActions actions).machine.pendingWaits =
      s.machine.pendingWaits + ((s.turns actions).flatMap Turn.executed).count .getKey := by
  induction actions generalizing s with
  | nil => exact Nat.add_comm 0 s.machine.pendingWaits
  | cons action rest ih =>
      have first := Turn.pendingWaits_after ⟨s, action⟩ (noLoad action List.mem_cons_self)
      have later := ih (s := s.act action)
        fun other mem => noLoad other (List.mem_cons_of_mem _ mem)
      rw [turns_cons, List.countP_cons, List.flatMap_cons, List.count_append]
      change _ + ((s.act action).afterActions rest).machine.pendingWaits = _
      change _ + (s.act action).machine.pendingWaits = s.machine.pendingWaits + _ at first
      omega

/-- A key that answers two waits has been released between them. -/
theorem exists_release_between {actions : List Action} {earlier between later : List Turn}
    {first second : Turn}
    (split : s.turns actions = earlier ++ first :: (between ++ second :: later))
    (answers : first.answer? = some k) (answersAgain : second.answer? = some k) :
    ∃ turn ∈ between, turn.Releases k := by
  obtain ⟨rest, behind⟩ := eq_turns_of_turns_eq split
  have held := Turn.isHeld_of_fresh (Turn.fresh_of_answer answers)
  obtain ⟨-, up⟩ := Turn.freshKey?_eq_some_iff.mp (Turn.fresh_of_answer answersAgain)
  obtain ⟨turn, mem, before, after⟩ :=
    exists_turn_of_lost (P := fun t => t.machine.keypad.isHeld k = true) held behind.symm
      (Bool.eq_false_iff.mp up)
  exact ⟨turn, mem, Turn.releases_of_lost before (Bool.eq_false_iff.mpr after)⟩

/-- **A held key answers at most one wait.**  Take any session: a program is loaded, key releases
are reported or not, and frames with any key events are played until the user quits.  While a
register waits, neither releases nor old keys, unmapped keys, the instructions of a frame or events
of a key that is held end the wait or change a register.  The first press or repetition of a key
that is not held ends it; the register then reads the number of this key, and the other registers
are as they were.

So if one key answers two waits, it has been released between the two answers, by an event or
because it had not been seen for a while, however often it was repeated.  And there are as many
waits, answered ones and the one that may be pending, as instructions `FX0A` were executed. -/
theorem held_key_answers_one_wait (entropy : Entropy) (o : Options) (image : List UInt8)
    (reportsReleases : Bool) (frames : List Frame) :
    let start := ((Session.new entropy).start o (some image) reportsReleases).state
    let record := start.turns (Frame.allActions 0 frames)
    start.play frames = start.afterActions (Frame.allActions 0 frames) ∧
    (∀ turn ∈ record, ∀ target, turn.before.machine.awaiting = some target →
      (turn.freshKey? = none →
        turn.after.machine.awaiting = some target ∧
        turn.after.machine.registers = turn.before.machine.registers) ∧
      ∀ k, turn.freshKey? = some k →
        turn.after.machine.awaiting = none ∧
        (turn.after.machine.registers.read target).toNat = k.val ∧
        ∀ r, r ≠ target →
          turn.after.machine.registers.read r = turn.before.machine.registers.read r) ∧
    (∀ (earlier between later : List Turn) (first second : Turn) (k : Key),
      record = earlier ++ first :: (between ++ second :: later) →
      first.answer? = some k → second.answer? = some k →
      ∃ turn ∈ between, turn.Releases k) ∧
    (record.countP fun turn => turn.answer?.isSome) +
        (if (start.play frames).machine.awaiting.isSome then 1 else 0) =
      (record.flatMap Turn.executed).count .getKey := by
  intro start record
  have noLoad : ∀ action ∈ Frame.allActions 0 frames, action.isLoad = false :=
    fun action => Frame.isLoad_of_mem_allActions
  have played : start.play frames = start.afterActions (Frame.allActions 0 frames) :=
    play_eq start frames
  refine ⟨played, ?_, fun _ _ _ _ _ _ => exists_release_between, ?_⟩
  · intro turn mem target awaited
    have plain := noLoad turn.action (action_mem_of_mem_turns mem)
    exact ⟨Turn.awaiting_of_not_fresh plain awaited, fun k => Turn.awaiting_of_fresh awaited⟩
  · have balance := waits_answered_or_pending (s := start) noLoad
    rw [← played] at balance
    -- nothing waits at the start
    exact balance.trans (Nat.zero_add _)

/-- A program waits for two keys.  `W`, the key 5, answers the first wait; it is repeated, which
does not answer the second, and answers that after it has been released. -/
theorem repeated_key_answers_after_release :
    let o : Options := ⟨"keys.ch8", 700, 60, .superChip, none, .info⟩
    let start := ((Session.new ⟨fun _ => 0, 0⟩).start o (some [0xF0, 0x0A, 0xF1, 0x0A]) true).state
    let frames : List Frame := [⟨[], 5⟩, ⟨[⟨.char 'w', .press⟩], 5⟩, ⟨[⟨.char 'w', .held⟩], 5⟩,
      ⟨[⟨.char 'w', .release⟩, ⟨.char 'W', .press⟩], 5⟩]
    let before : List Action := [.releaseStale, .run 5, .setFrame 1]
    let meanwhile : List Action := [.releaseStale, .run 5, .setFrame 2, .key ⟨.char 'w', .held⟩,
      .releaseStale, .run 5, .setFrame 3, .key ⟨.char 'w', .release⟩]
    let first : Turn := ⟨start.afterActions before, .key ⟨.char 'w', .press⟩⟩
    let second : Turn := ⟨first.after.afterActions meanwhile, .key ⟨.char 'W', .press⟩⟩
    let rest : List Action := [.releaseStale, .run 5, .setFrame 4]
    start.turns (Frame.allActions 0 frames) = start.turns before ++ first ::
      (first.after.turns meanwhile ++ second :: second.after.turns rest) ∧
    first.answer? = some 5 ∧ second.answer? = some 5 ∧
    (∃ turn ∈ first.after.turns meanwhile, turn.Releases 5) ∧
    second.after.machine.awaiting = none ∧
    second.after.machine.registers.read 1 = 5 ∧
    (∀ r, r ≠ 1 →
      second.after.machine.registers.read r = second.before.machine.registers.read r) := by
  intro o start frames before meanwhile first second rest
  obtain ⟨answers, again, waits, fresh⟩ :
      first.answer? = some 5 ∧ second.answer? = some 5 ∧
      second.before.machine.awaiting = some 1 ∧ second.freshKey? = some 5 := by decide +kernel
  have actions : Frame.allActions 0 frames =
      before ++ .key ⟨.char 'w', .press⟩ ::
        (meanwhile ++ .key ⟨.char 'W', .press⟩ :: rest) := by decide +kernel
  have split : start.turns (Frame.allActions 0 frames) = start.turns before ++ first ::
      (first.after.turns meanwhile ++ second :: second.after.turns rest) := by
    rw [actions, turns_append_cons, turns_append_cons]
    rfl
  obtain ⟨-, waiting, twice, -⟩ :=
    held_key_answers_one_wait ⟨fun _ => 0, 0⟩ o [0xF0, 0x0A, 0xF1, 0x0A] true frames
  have released := twice _ _ _ first second 5 split answers again
  have mem : second ∈ start.turns (Frame.allActions 0 frames) := by
    rw [split]
    simp
  obtain ⟨ended, number, others⟩ := (waiting second mem 1 waits).2 5 fresh
  exact ⟨split, answers, again, released, ended, UInt8.toNat_inj.mp number, others⟩

end Session

end Chip8
