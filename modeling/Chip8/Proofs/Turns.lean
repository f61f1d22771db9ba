import Chip8.Proofs.HeldKeys
import Chip8.Proofs.SessionFault

/-!
# Turns of a session

A session is played frame by frame, and a frame is a list of actions: each key event is passed on,
then old keys are released, the instructions are executed, and the next frame begins.  An Escape
ends the session in the middle of a frame.

So a law about a session is one about a list of actions.  For laws that speak of several of them the
actions are recorded as *turns*, each with the session before it.

## Main definitions

* `Session.play` — frames, one after the other, until the user quits
* `Frame.actions`, `Frame.allActions` — the actions of a frame, and those of a session
* `Frame.Takes` — what can be among them
* `Session.Turn`, `Session.turns` — the record of a list of actions

## Main statements

* `play_eq` — playing frames is taking their actions
* `eq_turns_of_turns_eq` — what comes after a turn is the record of its later actions
* `exists_turn_of_lost` — what holds at one time and not later is lost in a turn between
-/

namespace Chip8

/-! ## The actions of frames -/

namespace Frame

/-- The user asks to quit. -/
def quits (frame : Frame) : Bool :=
  frame.events.any fun e => e.code = .escape

/-- What is done in the frame with the given number. -/
def actions (frame : Frame) (number : Nat) : List Session.Action :=
  (frame.events.takeWhile fun e => e.code ≠ .escape).map .key ++
    if frame.quits then [] else [.releaseStale, .run frame.budget, .setFrame (number + 1)]

/-- What is done in a list of frames, the first of which has the given number. -/
def allActions (number : Nat) : List Frame → List Session.Action
  | [] => []
  | frame :: rest =>
    frame.actions number ++ if frame.quits then [] else allActions (number + 1) rest

theorem allActions_cons (number : Nat) (frame : Frame) (rest : List Frame) :
    allActions number (frame :: rest) =
      frame.actions number ++ if frame.quits then [] else allActions (number + 1) rest := rfl

/-- What can be among the actions of some frames. -/
inductive Takes (frames : List Frame) : Session.Action → Prop
  | key (e : KeyEvent) : Takes frames (.key e)
  | releaseStale : Takes frames .releaseStale
  | run {frame : Frame} (mem : frame ∈ frames) : Takes frames (.run frame.budget)
  | setFrame (number : Nat) : Takes frames (.setFrame number)

variable {frame : Frame} {frames : List Frame} {number : Nat} {action : Session.Action}

theorem Takes.cons (takes : Takes frames action) : Takes (frame :: frames) action := by
  cases takes with
  | key e => exact .key e
  | releaseStale => exact .releaseStale
  | run mem => exact .run (List.mem_cons_of_mem _ mem)
  | setFrame number => exact .setFrame number

theorem takes_of_mem_actions (mem : action ∈ frame.actions number) :
    Takes (frame :: frames) action := by
  rcases List.mem_append.mp mem with key | rest
  · obtain ⟨e, -, rfl⟩ := List.mem_map.mp key
    exact .key e
  · split at rest
    · cases rest
    · simp only [List.mem_cons, List.not_mem_nil, or_false] at rest
      rcases rest with rfl | rfl | rfl
      · exact .releaseStale
      · exact .run List.mem_cons_self
      · exact .setFrame (number + 1)

theorem takes_of_mem_allActions (mem : action ∈ allActions number frames) :
    Takes frames action := by
  induction frames generalizing number with
  | nil => cases mem
  | cons frame rest ih =>
      rw [allActions_cons] at mem
      rcases List.mem_append.mp mem with here | later
      · exact takes_of_mem_actions here
      · split at later
        · cases later
        · exact (ih later).cons

/-- While frames are played no program is loaded. -/
theorem isLoad_of_mem_allActions (mem : action ∈ allActions number frames) :
    action.isLoad = false := by
  cases takes_of_mem_allActions mem <;> rfl

end Frame

namespace Session

variable {s : Session}

theorem afterActions_append (s : Session) (first second : List Action) :
    s.afterActions (first ++ second) = (s.afterActions first).afterActions second :=
  List.foldl_append

/-- Frames, one after the other, until the user quits. -/
def play (s : Session) : List Frame → Session
  | [] => s
  | frame :: rest =>
    let reply := s.playFrame frame.events frame.budget
    if reply.result then reply.state.play rest else reply.state

theorem play_cons (s : Session) (frame : Frame) (rest : List Frame) :
    s.play (frame :: rest) =
      if (s.playFrame frame.events frame.budget).result then
        (s.playFrame frame.events frame.budget).state.play rest
      else (s.playFrame frame.events frame.budget).state := rfl

theorem receive_of_escape {e : KeyEvent} (escape : e.code = .escape) :
    s.receive e = ⟨false, s, []⟩ := by
  rw [receive, if_pos escape]

theorem receive_result {e : KeyEvent} (goesOn : e.code ≠ .escape) :
    (s.receive e).result = true := by
  unfold receive
  rw [if_neg goesOn]
  cases e.code.key? with
  | none => rfl
  | some k => cases e.kind <;> rfl

/-- The number of the frame is not changed by a key event. -/
theorem frame_receive (s : Session) (e : KeyEvent) : (s.receive e).state.frame = s.frame := by
  unfold receive
  split
  · rfl
  · cases e.code.key? with
    | none => rfl
    | some k =>
        cases e.kind with
        | press | held => exact frame_keyDown s k
        | release => rfl

/-- Passing on key events ends with the first Escape. -/
theorem receiveAll_eq (s : Session) (events : List KeyEvent) :
    (s.receiveAll events).result = !events.any (fun e => e.code = .escape) ∧
    (s.receiveAll events).state =
      s.afterActions ((events.takeWhile fun e => e.code ≠ .escape).map .key) ∧
    (s.receiveAll events).state.frame = s.frame := by
  induction events generalizing s with
  | nil => exact ⟨rfl, rfl, rfl⟩
  | cons e rest ih =>
      by_cases escape : e.code = .escape
      · simp [receiveAll, receive_of_escape escape, escape, afterActions]
      · obtain ⟨result, state, frame⟩ := ih (s.receive e).state
        simp only [receiveAll, receive_result escape, if_true, List.any_cons, escape, decide_false,
          Bool.false_or, List.takeWhile_cons, ne_eq, not_false_eq_true, decide_true, List.map_cons]
        exact ⟨result, state, frame.trans (frame_receive s e)⟩

theorem frame_releaseStale (s : Session) : s.releaseStale.frame = s.frame := by
  unfold releaseStale
  split
  · rfl
  · exact List.foldlRecOn (List.finRange 16) releaseIfExpired
      (motive := fun t => t.frame = s.frame) rfl fun t kept k _ =>
        (frame_releaseIfExpired t k).trans kept

theorem frame_run (s : Session) (count : Nat) : (s.run count).state.frame = s.frame := by
  unfold run
  split <;> rfl

/-- A frame in which the user does not quit leads to the next one. -/
theorem playFrame_eq (s : Session) (frame : Frame) :
    (s.playFrame frame.events frame.budget).result = !frame.quits ∧
    (s.playFrame frame.events frame.budget).state = s.afterActions (frame.actions s.frame) ∧
    (frame.quits = false →
      (s.playFrame frame.events frame.budget).state.frame = s.frame + 1) := by
  obtain ⟨result, state, number⟩ := s.receiveAll_eq frame.events
  change _ = !frame.quits at result
  unfold playFrame Frame.actions
  cases quits : frame.quits with
  | true =>
      rw [quits, Bool.not_true] at result
      simp only [result, Bool.false_eq_true, if_false, if_true, List.append_nil, Bool.not_true]
      exact ⟨trivial, state, nofun⟩
  | false =>
      rw [quits, Bool.not_false] at result
      -- nothing before the last action of the frame changes its number
      have kept : ((s.receiveAll frame.events).state.releaseStale.run frame.budget).state.frame =
          s.frame := by
        rw [frame_run, frame_releaseStale, number]
      simp only [result, Bool.false_eq_true, if_false, if_true, Bool.not_false, kept]
      rw [afterActions_append, ← state]
      exact ⟨trivial, rfl, fun _ => trivial⟩

/-- Playing frames is taking their actions. -/
theorem play_eq (s : Session) (frames : List Frame) :
    s.play frames = s.afterActions (Frame.allActions s.frame frames) := by
  induction frames generalizing s with
  | nil => rfl
  | cons frame rest ih =>
      obtain ⟨result, state, next⟩ := s.playFrame_eq frame
      rw [play_cons, result, Frame.allActions_cons]
      cases quits : frame.quits with
      | true => simpa using state
      | false =>
          simp only [Bool.not_false, if_true, Bool.false_eq_true, if_false]
          rw [ih, next quits, state, afterActions_append]

/-! ## Turns -/

/-- An action in a session, with the session before it. -/
structure Turn where
  before : Session
  action : Action

/-- The session after the action. -/
def Turn.after (turn : Turn) : Session :=
  turn.before.act turn.action

/-- The record of a list of actions. -/
def turns (s : Session) : List Action → List Turn
  | [] => []
  | action :: rest => ⟨s, action⟩ :: (s.act action).turns rest

theorem turns_cons (s : Session) (action : Action) (rest : List Action) :
    s.turns (action :: rest) = ⟨s, action⟩ :: (s.act action).turns rest := rfl

variable {actions : List Action} {earlier between later : List Turn} {turn second : Turn}

theorem action_mem_of_mem_turns (mem : turn ∈ s.turns actions) : turn.action ∈ actions := by
  induction actions generalizing s with
  | nil => cases mem
  | cons action rest ih =>
      rcases List.mem_cons.mp mem with rfl | later
      · exact List.mem_cons_self
      · exact List.mem_cons_of_mem _ (ih later)

theorem turns_append (s : Session) (first second : List Action) :
    s.turns (first ++ second) = s.turns first ++ (s.afterActions first).turns second := by
  induction first generalizing s with
  | nil => rfl
  | cons action rest ih => exact congrArg (⟨s, action⟩ :: ·) (ih _)

theorem turns_append_cons (s : Session) (first : List Action) (action : Action)
    (second : List Action) :
    s.turns (first ++ action :: second) =
      s.turns first ++ ⟨s.afterActions first, action⟩ ::
        ((s.afterActions first).act action).turns second :=
  turns_append s first (action :: second)

/-- What comes after a turn is the record of the actions behind it, from the session it leaves. -/
theorem eq_turns_of_turns_eq (split : s.turns actions = earlier ++ turn :: later) :
    ∃ rest, later = turn.after.turns rest := by
  induction earlier generalizing s actions with
  | nil =>
      cases actions with
      | nil => cases split
      | cons action rest =>
          obtain ⟨rfl, rfl⟩ := List.cons.inj split
          exact ⟨rest, rfl⟩
  | cons first earlier ih =>
      cases actions with
      | nil => cases split
      | cons action rest => exact ih (List.cons.inj split).2

/-- What holds of a session, but no longer before a later turn, is lost in a turn between. -/
theorem exists_turn_of_lost {P : Session → Prop} (held : P s)
    (split : s.turns actions = between ++ second :: later) (lost : ¬ P second.before) :
    ∃ turn ∈ between, P turn.before ∧ ¬ P turn.after := by
  induction between generalizing s actions with
  | nil =>
      cases actions with
      | nil => cases split
      | cons action rest =>
          obtain ⟨rfl, -⟩ := List.cons.inj split
          exact absurd held lost
  | cons first between ih =>
      cases actions with
      | nil => cases split
      | cons action rest =>
          obtain ⟨rfl, tail⟩ := List.cons.inj split
          by_cases kept : P (s.act action)
          · obtain ⟨turn, mem, loses⟩ := ih kept tail
            exact ⟨turn, List.mem_cons_of_mem _ mem, loses⟩
          · exact ⟨⟨s, action⟩, List.mem_cons_self, held, kept⟩

end Session

end Chip8
