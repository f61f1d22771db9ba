import Chip8.Proofs.Faults
import Chip8.Proofs.Keys
import Chip8.Proofs.Timers
import Chip8.Terminal.Session

/-!
# The fault of a session

A fault is recorded once, when a step of a frame fails, and it is shown from then on.  It stays the
truth: a step that fails leaves the machine as it was, and what can still happen afterwards — a tick
of the timers, keys, a change of the mode — has no part in whether and how the next step fails.  In
particular a key that goes down finds no register waiting, since a machine that waits does not fail.

So the session with a fault is *frozen*: apart from the held keys and what the session remembers of
them, the mode, and the number of the frame nothing can change, unless a program is loaded, which
leaves the fault where it is.

## Main definitions

* `Session.Action`, `Session.act` — one thing done to a session
* `Session.Reached` — the sessions that come about without loading after a fault
* `Session.Explained` — the fault is the error of the next step
* `Session.Frozen` — what two sessions have in common if a fault keeps them from changing

## Main statements

* `Run.Explained.advance` — the error that ended a run is the one of the next step
* `frozen_act` — after a fault every action but loading leaves the session frozen
* `Reached.explained` — the fault is explained in every session that comes about
* `fault_freezes_session` — all of this together
-/

namespace Chip8

/-! ## Runs that end with an error -/

namespace Run

variable {r : Run} {e : Error}

theorem error?_eq_some_iff : r.error? = some e ↔ r.last = some (.error e) := by
  cases last : r.last with
  | none => simp [error?, last]
  | some result => cases result <;> simp [error?, last]

/-- The error that ended a run is the one of the next step, whatever its random byte. -/
def Explained (r : Run) : Prop :=
  ∀ e, r.error? = some e → ∀ byte, (r.machine.step byte).result = .error e

theorem explained_start (m : Machine) (entropy : Entropy) : (Run.start m entropy).Explained :=
  nofun

theorem explained_step (r : Run) : r.step.Explained := by
  intro e failed byte
  have result : (r.machine.step r.entropy.next).result = .error e :=
    Option.some.inj (error?_eq_some_iff.mp failed)
  -- the step that failed left the machine as it was, and its causes do not speak of the byte
  have unchanged : r.step.machine = r.machine := Machine.step_error_state result
  rw [unchanged]
  exact Machine.step_eq_error_iff.mpr (Machine.step_eq_error_iff.mp result)

theorem Explained.advance (explained : r.Explained) (limit : Nat) :
    (r.advance limit).Explained := by
  induction limit generalizing r with
  | zero => exact explained
  | succ limit ih =>
      rw [advance_succ]
      split
      · exact ih (explained_step r)
      · exact explained

end Run

namespace Session

/-! ## Actions -/

/-- One thing done to a session. -/
inductive Action where
  | load (image : List UInt8)
  | key (e : KeyEvent)
  /-- Keys that have not been seen for a while go up. -/
  | releaseStale
  /-- The instructions of a frame. -/
  | run (count : Nat)
  | setMode (mode : Mode)
  | setFrame (frame : Nat)
  | setReportsReleases (reportsReleases : Bool)
deriving DecidableEq, Repr

/-- A program is loaded. -/
def Action.isLoad : Action → Bool
  | .load _ => true
  | _ => false

/-- Does one thing to the session. -/
def act (s : Session) : Action → Session
  | .load image => { s with machine := (s.machine.load image).state }
  | .key e => (s.receive e).state
  | .releaseStale => s.releaseStale
  | .run count => (s.run count).state
  | .setMode mode => { s with machine := s.machine.setMode mode }
  | .setFrame frame => { s with frame := frame }
  | .setReportsReleases reportsReleases => { s with reportsReleases := reportsReleases }

/-- The session after a list of actions. -/
def afterActions (s : Session) (actions : List Action) : Session :=
  actions.foldl act s

/-- The sessions that come about from a new one, if no program is loaded once there is a fault. -/
inductive Reached (entropy : Entropy) : Session → Prop
  | new : Reached entropy (.new entropy)
  | act {s : Session} (reached : Reached entropy s) (action : Action)
      (inTime : action.isLoad = true → s.fault = none) : Reached entropy (s.act action)

/-- The fault is the error of the next step, whatever its random byte. -/
def Explained (s : Session) : Prop :=
  ∀ e, s.fault = some e → ∀ byte, (s.machine.step byte).result = .error e

/-! ## Frozen sessions -/

/-- The session `t` is `s`, except that keys may have gone up or down, and that the mode, the number
of the frame and whether releases are reported may be others. -/
structure Frozen (s t : Session) : Prop where
  others : t = { s with
    machine := { s.machine with keypad := t.machine.keypad, mode := t.machine.mode }
    lastSeen := t.lastSeen
    reportsReleases := t.reportsReleases
    frame := t.frame }
  awaiting : t.machine.awaiting = s.machine.awaiting

variable {s t u : Session} {e : Error}

theorem Frozen.refl (s : Session) : s.Frozen s :=
  ⟨rfl, rfl⟩

theorem Frozen.trans (first : s.Frozen t) (second : t.Frozen u) : s.Frozen u where
  others := by
    rw [second.others, first.others]
  awaiting := second.awaiting.trans first.awaiting

theorem Frozen.fault (frozen : s.Frozen t) : t.fault = s.fault := by
  rw [frozen.others]

theorem Frozen.delayTimer (frozen : s.Frozen t) : t.machine.delayTimer = s.machine.delayTimer := by
  rw [frozen.others]

/-- What decides a step is among the parts that do not change. -/
theorem Frozen.inStep (frozen : s.Frozen t) : s.machine.InStep t.machine := by
  have machine := congrArg Session.machine frozen.others
  refine ⟨?_, ?_, ?_, ?_, frozen.awaiting, ?_⟩ <;> rw [machine]

/-- A key that goes down while nothing waits changes the held keys only. -/
theorem frozen_keyDown (free : s.machine.awaiting = none) (k : Key) :
    s.Frozen (s.keyDown k).state := by
  rw [keyDown]
  split
  · exact ⟨rfl, rfl⟩
  · simp only [Machine.keyDown_of_awaiting_eq_none free]
    exact ⟨rfl, free.symm⟩

theorem frozen_keyUp (s : Session) (k : Key) : s.Frozen (s.keyUp k) :=
  ⟨rfl, rfl⟩

theorem frozen_receive (free : s.machine.awaiting = none) (e : KeyEvent) :
    s.Frozen (s.receive e).state := by
  rw [receive]
  split
  · exact .refl s
  · cases e.code.key? with
    | none => exact .refl s
    | some k =>
        cases e.kind with
        | press => exact frozen_keyDown free k
        | held => exact frozen_keyDown free k
        | release => exact frozen_keyUp s k

theorem frozen_releaseStale (s : Session) : s.Frozen s.releaseStale := by
  rw [releaseStale]
  split
  · exact .refl s
  · refine List.foldlRecOn _ _ (.refl s) ?_
    intro t frozen k _
    split
    · exact frozen.trans (frozen_keyUp t k)
    · exact frozen

/-- After a fault the instructions of a frame are not executed, and nothing ticks. -/
theorem run_of_fault (fault : s.fault = some e) (count : Nat) : s.run count = ⟨(), s, []⟩ := by
  rw [run, fault, Option.isSome_some, if_pos rfl]

theorem run_of_unharmed (unharmed : s.fault = none) (count : Nat) :
    (s.run count).state =
      let r := s.machine.run s.entropy count
      { s with machine := r.machine.tick, entropy := r.entropy, fault := r.error? } := by
  rw [run, unharmed, Option.isSome_none, if_neg Bool.false_ne_true]

theorem Explained.ready (explained : s.Explained) (fault : s.fault = some e) : s.machine.Ready :=
  (Machine.step_eq_error_iff.mp (explained e fault 0)).1

/-- After a fault every action but loading leaves the session frozen. -/
theorem frozen_act (explained : s.Explained) (fault : s.fault = some e) {action : Action}
    (other : action.isLoad = false) : s.Frozen (s.act action) := by
  have free : s.machine.awaiting = none := (explained.ready fault).free
  cases action with
  | load image => cases other
  | key e => exact frozen_receive free e
  | releaseStale => exact frozen_releaseStale s
  | run count =>
      rw [act, run_of_fault fault]
      exact .refl s
  | setMode mode => exact ⟨rfl, rfl⟩
  | setFrame frame => exact ⟨rfl, rfl⟩
  | setReportsReleases reportsReleases => exact ⟨rfl, rfl⟩

/-! ## The fault is explained -/

/-- A frozen session has the same fault, and its next step is the same. -/
theorem Explained.frozen (explained : s.Explained) (frozen : s.Frozen t) : t.Explained := by
  intro e fault byte
  rw [frozen.inStep.result]
  exact explained e (frozen.fault.symm.trans fault) byte

/-- The one tick after the failing step has no part in how the next one fails. -/
theorem explained_run (unharmed : s.fault = none) (count : Nat) :
    (s.run count).state.Explained := by
  rw [run_of_unharmed unharmed]
  intro e fault byte
  have ended := (Run.explained_start s.machine s.entropy).advance count
  have ticked := (Machine.sameButTimers_tick (s.machine.run s.entropy count).machine).inStep
  exact (ticked.result byte).trans (ended e fault byte)

theorem fault_receive (s : Session) (e : KeyEvent) : (s.receive e).state.fault = s.fault := by
  rw [receive]
  split
  · rfl
  · cases e.code.key? with
    | none => rfl
    | some k =>
        cases e.kind with
        | press | held =>
            simp only [keyDown]
            split <;> rfl
        | release => rfl

/-- Without a fault only the instructions of a frame can bring one about. -/
theorem explained_act_of_unharmed (unharmed : s.fault = none) (action : Action) :
    (s.act action).Explained := by
  have explained {t : Session} (same : t.fault = s.fault) : t.Explained := by
    intro e fault
    rw [same, unharmed] at fault
    cases fault
  cases action with
  | key e => exact explained (fault_receive s e)
  | releaseStale => exact explained (frozen_releaseStale s).fault
  | run count => exact explained_run unharmed count
  | load image | setMode mode | setFrame frame | setReportsReleases reportsReleases =>
      exact explained rfl

theorem Reached.explained {entropy : Entropy} (reached : Reached entropy s) : s.Explained := by
  induction reached with
  | new => exact nofun
  | @act s reached action inTime ih =>
      cases fault : s.fault with
      | none => exact explained_act_of_unharmed fault action
      | some e =>
          have other : action.isLoad = false := by
            cases load : action.isLoad with
            | false => rfl
            | true =>
                rw [inTime load] at fault
                cases fault
          exact ih.frozen (frozen_act ih fault other)

theorem frozen_afterActions (explained : s.Explained) (fault : s.fault = some e)
    {actions : List Action} (others : ∀ action ∈ actions, action.isLoad = false) :
    s.Frozen (s.afterActions actions) := by
  induction actions generalizing s with
  | nil => exact .refl s
  | cons action rest ih =>
      have first := frozen_act explained fault (others action List.mem_cons_self)
      have later := ih (explained.frozen first) (first.fault.trans fault)
        fun other mem => others other (List.mem_cons_of_mem _ mem)
      exact first.trans later

/-- **The fault that is shown is the one there is, and it freezes the session.**  Take any session
that comes about from a new one by loading programs, key events, releases of old keys, frames, and
changes of the mode, of the frame number and of whether releases are reported, in any order, but
without loading once there is a fault.  If it has a fault, the machine has not come to its end and
waits for no key, and the next step fails with that error, so that the text of the fault is the text
of the error.  The instructions of every further frame leave the whole session as it is, the timers
included.  After any further actions without loading only the held keys, what is remembered of them,
the mode, the number of the frame and whether releases are reported can have changed. -/
theorem fault_freezes_session (entropy : Entropy) (s : Session) (reached : Reached entropy s)
    (e : Error) (fault : s.fault = some e) :
    s.machine.halted = false ∧ s.machine.awaiting = none ∧
    (∀ byte, (s.machine.step byte).result = .error e) ∧
    (∀ count, s.run count = ⟨(), s, []⟩) ∧
    ∀ actions : List Action, (∀ action ∈ actions, action.isLoad = false) →
      s.Frozen (s.afterActions actions) := by
  have explained := reached.explained
  obtain ⟨running, free⟩ := explained.ready fault
  exact ⟨running, free, explained e fault, run_of_fault fault,
    fun actions others => frozen_afterActions explained fault others⟩

/-- A program sets the delay timer to 60 and then returns without a call, in its first frame, at the
end of which the timer goes down to 59.  There it stays: a key, another mode, a late frame in which
the key goes up again, and the instructions of that frame change only what they may. -/
theorem underflow_freezes_session :
    let loaded := (Session.new ⟨fun _ => 0, 0⟩).act (.load [0x60, 0x3C, 0xF0, 0x15, 0x00, 0xEE])
    let s := loaded.act (.run 5)
    let later : List Action :=
      [.key ⟨.char 'x', .press⟩, .setMode .chip8, .setFrame 100, .releaseStale, .run 9]
    s.fault = some .stackUnderflow ∧ s.machine.halted = false ∧
    (∀ byte, (s.machine.step byte).result = .error .stackUnderflow) ∧
    s.run 9 = ⟨(), s, []⟩ ∧ s.Frozen (s.afterActions later) ∧
    s.machine.delayTimer = 59 ∧ (s.afterActions later).machine.delayTimer = 59 := by
  intro loaded s later
  have first : Reached ⟨fun _ => 0, 0⟩ loaded := .act .new (.load _) fun _ => rfl
  have reached : Reached ⟨fun _ => 0, 0⟩ s := .act first (.run 5) nofun
  have fault : s.fault = some .stackUnderflow := by decide +kernel
  have delay : s.machine.delayTimer = 59 := by decide +kernel
  obtain ⟨running, -, fails, stopped, frozen⟩ := fault_freezes_session _ s reached _ fault
  have kept : s.Frozen (s.afterActions later) := frozen later (by decide)
  exact ⟨fault, running, fails, stopped 9, kept, delay, kept.delayTimer.trans delay⟩

end Session

end Chip8
