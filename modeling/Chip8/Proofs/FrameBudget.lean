import Chip8.Proofs.Rates
import Chip8.Proofs.Turns
import Chip8.Proofs.Frames

/-!
# The instructions of a second

A frame may execute its share of the instructions of a second, rounded down, but at least one.  So
the frames of a second together execute no more than were asked for, unless there are more frames
than instructions, and if no frame ends early they miss fewer than there are frames.

A frame ends early if the program has come to its end, if a register waits for a key or if a step
fails, and after a fault there are no steps at all.  Otherwise it takes as many steps as it may.

The steps are counted where they are taken.  In the record of the frames some turns execute
instructions; their operations are the steps of a run and a tick, they lead from the machine before
the turn to the machine after it, and there are as many steps among them as the run has counted.  In
all other turns nothing happens to the machine but that keys go down or up.

## Main definitions

* `Moment.Undisturbed` — no end of the program, no wait and no error
* `Machine.ChangedByKeys` — nothing has happened but that keys went down or up
* `Session.Turn.operations`, `Session.Turn.steps` — what the instructions of a turn do to the
  machine, and how many they are
* `Session.runTurns` — the turns of some frames in which instructions are executed

## Main statements

* `Run.steps_advance` — a run counts its steps
* `Run.length_operations_le`, `Run.length_operations` — how many steps a run takes
* `changedByKeys_of_mem_turns` — the turns that take no steps
* `sum_steps_le`, `map_steps_runTurns` — how many steps frames take
* `budget_shares_out_instructions` — the share of a frame, and the steps of the frames of a second
-/

namespace Chip8

/-- The operation did not find the program at its end or a register waiting, and did not fail. -/
structure Moment.Undisturbed (moment : Moment) : Prop where
  running : moment.result ≠ some (.ok .halted)
  free : ∀ target, moment.result ≠ some (.ok (.awaitingKey target))
  unharmed : ∀ e, moment.result ≠ some (.error e)

namespace Run

variable {limit : Nat} {r : Run}

/-! ## The steps of a run -/

/-- An undisturbed step is one after which a run goes on. -/
theorem goesOn_step (undisturbed : (r.machine.moment (.step r.entropy.next)).Undisturbed) :
    r.step.goesOn = true := by
  obtain ⟨running, free, unharmed⟩ := undisturbed
  change proceeds (r.machine.step r.entropy.next).result = true
  change some (r.machine.step r.entropy.next).result ≠ _ at running
  cases result : (r.machine.step r.entropy.next).result with
  | error e => exact absurd (congrArg some result) (unharmed e)
  | ok outcome =>
      cases outcome with
      | executed opcode | unknownWord word => rfl
      | awaitingKey target => exact absurd (congrArg some result) (free target)
      | halted => exact absurd (congrArg some result) running

/-- A run counts its steps. -/
theorem steps_advance (limit : Nat) (r : Run) :
    (r.advance limit).steps = r.steps + (r.operations limit).length := by
  induction limit generalizing r with
  | zero => rfl
  | succ limit ih =>
      rw [operations_succ, advance_succ]
      split
      · rw [ih, List.length_cons, Nat.add_comm _ 1, ← Nat.add_assoc]
        rfl
      · rfl

/-- All operations of a run are steps. -/
theorem countP_isStep_operations (limit : Nat) (r : Run) :
    (r.operations limit).countP Operation.isStep = (r.operations limit).length := by
  rw [List.countP_eq_length]
  intro operation mem
  obtain ⟨byte, rfl⟩ := isStep_of_mem_operations mem
  rfl

/-- A run takes no more steps than it may. -/
theorem length_operations_le (limit : Nat) (r : Run) : (r.operations limit).length ≤ limit := by
  induction limit generalizing r with
  | zero => exact Nat.le_refl 0
  | succ limit ih =>
      rw [operations_succ]
      split
      · exact Nat.succ_le_succ (ih r.step)
      · exact Nat.zero_le _

/-- A run takes as many steps as it may if none of them is disturbed, and then it goes on. -/
theorem length_operations (goesOn : r.goesOn = true)
    (undisturbed : ∀ moment ∈ r.machine.history (r.operations limit), moment.Undisturbed) :
    (r.operations limit).length = limit ∧ (r.advance limit).goesOn = true := by
  induction limit generalizing r with
  | zero => exact ⟨rfl, goesOn⟩
  | succ limit ih =>
      rw [operations_succ, if_pos goesOn] at undisturbed ⊢
      obtain ⟨now, later⟩ := List.forall_mem_cons.mp undisturbed
      -- what the first step gives back decides whether there is a second
      obtain ⟨length, last⟩ := ih (goesOn_step now) later
      rw [List.length_cons, length, advance_succ, if_pos goesOn]
      exact ⟨rfl, last⟩

end Run

/-! ## Keys -/

namespace Machine

variable {m n : Machine}

/-- All that has happened to the machine is that keys went down or up. -/
def ChangedByKeys (m n : Machine) : Prop :=
  ∃ operations : List Operation,
    (∀ operation ∈ operations, ∃ k, operation = .keyDown k ∨ operation = .keyUp k) ∧
    m.after operations = n

theorem changedByKeys_refl (m : Machine) : m.ChangedByKeys m :=
  ⟨[], nofun, rfl⟩

theorem changedByKeys_keyDown (m : Machine) (k : Key) :
    m.ChangedByKeys (m.keyDown k).state :=
  ⟨[.keyDown k], fun _ mem => ⟨k, .inl (List.mem_singleton.mp mem)⟩, rfl⟩

theorem ChangedByKeys.keyUp (changed : m.ChangedByKeys n) (k : Key) :
    m.ChangedByKeys (n.keyUp k) := by
  obtain ⟨operations, keys, rfl⟩ := changed
  refine ⟨operations ++ [.keyUp k], ?_, after_concat m operations (.keyUp k)⟩
  intro operation mem
  rcases List.mem_append.mp mem with earlier | last
  · exact keys operation earlier
  · exact ⟨k, .inr (List.mem_singleton.mp last)⟩

end Machine

namespace Session

variable {s : Session} {budget : Nat} {turn : Turn}

theorem changedByKeys_keyDown (s : Session) (k : Key) :
    s.machine.ChangedByKeys (s.keyDown k).state.machine := by
  rw [keyDown]
  split
  · exact Machine.changedByKeys_refl s.machine
  · exact Machine.changedByKeys_keyDown s.machine k

theorem changedByKeys_receive (s : Session) (e : KeyEvent) :
    s.machine.ChangedByKeys (s.receive e).state.machine := by
  rw [receive]
  split
  · exact Machine.changedByKeys_refl s.machine
  · cases e.code.key? with
    | none => exact Machine.changedByKeys_refl s.machine
    | some k =>
        cases e.kind with
        | press | held => exact changedByKeys_keyDown s k
        | release => exact (Machine.changedByKeys_refl s.machine).keyUp k

theorem changedByKeys_releaseStale (s : Session) :
    s.machine.ChangedByKeys s.releaseStale.machine := by
  rw [releaseStale]
  split
  · exact Machine.changedByKeys_refl s.machine
  · refine List.foldlRecOn (List.finRange 16) releaseIfExpired
      (motive := fun t => s.machine.ChangedByKeys t.machine)
      (Machine.changedByKeys_refl s.machine) ?_
    intro t changed k _
    rw [releaseIfExpired]
    split
    · exact changed.keyUp k
    · exact changed

/-- The instructions of a frame are executed. -/
def Action.isRun : Action → Bool
  | .run _ => true
  | _ => false

/-- What the instructions of the turn and their tick do to the machine. -/
def Turn.operations (turn : Turn) : List Operation :=
  match turn.action with
  | .run count => turn.before.operations count
  | _ => []

/-- How many steps the instructions of the turn are. -/
def Turn.steps (turn : Turn) : Nat :=
  turn.operations.countP Operation.isStep

/-- The turns of some frames in which instructions are executed, until the user quits. -/
def runTurns (s : Session) (frames : List Frame) : List Turn :=
  (s.turns (Frame.allActions s.frame frames)).filter fun turn => turn.action.isRun

/-- In the turns of frames that execute no instructions the machine takes no steps. -/
theorem changedByKeys_of_mem_turns {frames : List Frame} {number : Nat}
    (mem : turn ∈ s.turns (Frame.allActions number frames)) (other : turn.action.isRun = false) :
    turn.before.machine.ChangedByKeys turn.after.machine := by
  have takes := Frame.takes_of_mem_allActions (action_mem_of_mem_turns mem)
  obtain ⟨t, action⟩ := turn
  cases takes with
  | key e => exact changedByKeys_receive t e
  | releaseStale => exact changedByKeys_releaseStale t
  | run among => cases other
  | setFrame number => exact Machine.changedByKeys_refl t.machine

/-! ## One frame -/

/-- Of the operations of a frame all but the tick at the end are steps. -/
theorem countP_isStep_operations (unharmed : s.fault = none) (count : Nat) :
    (s.operations count).countP Operation.isStep =
      ((Run.start s.machine s.entropy).operations count).length := by
  rw [operations_of_unharmed unharmed, List.countP_append, Run.countP_isStep_operations]
  rfl

/-- They are as many as the run of the frame has counted. -/
theorem countP_isStep_eq_steps (unharmed : s.fault = none) (count : Nat) :
    (s.operations count).countP Operation.isStep = (s.machine.run s.entropy count).steps := by
  rw [countP_isStep_operations unharmed, Machine.run, Run.steps_advance]
  exact (Nat.zero_add _).symm

theorem countP_isStep_le (s : Session) (count : Nat) :
    (s.operations count).countP Operation.isStep ≤ count := by
  cases fault : s.fault with
  | some e =>
      rw [operations_of_fault fault]
      exact Nat.zero_le count
  | none =>
      rw [countP_isStep_operations fault]
      exact Run.length_operations_le count _

/-- A frame that is not disturbed takes all its steps, and leaves no fault. -/
theorem countP_isStep_of_undisturbed (unharmed : s.fault = none) {count : Nat}
    (undisturbed : ∀ moment ∈ s.machine.history (s.operations count), moment.Undisturbed) :
    (s.operations count).countP Operation.isStep = count ∧ (s.run count).state.fault = none := by
  rw [operations_of_unharmed unharmed, Machine.history_append, List.forall_mem_append]
    at undisturbed
  obtain ⟨length, goesOn⟩ :=
    Run.length_operations (r := Run.start s.machine s.entropy) rfl undisturbed.1
  rw [countP_isStep_operations unharmed, run_of_unharmed unharmed]
  exact ⟨length, Run.error?_of_goesOn goesOn⟩

/-! ## Several frames -/

theorem filter_isRun_turns {actions : List Action}
    (plain : ∀ action ∈ actions, action.isRun = false) :
    (s.turns actions).filter (fun turn => turn.action.isRun) = [] := by
  refine List.filter_eq_nil_iff.mpr fun turn mem => ?_
  rw [plain turn.action (action_mem_of_mem_turns mem)]
  exact Bool.false_ne_true

/-- A frame in which the user does not quit has one turn that executes instructions. -/
theorem runTurns_cons (s : Session) (frame : Frame) (rest : List Frame) :
    s.runTurns (frame :: rest) =
      if frame.quits then []
      else ⟨(s.receiveAll frame.events).state.releaseStale, .run frame.budget⟩ ::
        (s.playFrame frame.events frame.budget).state.runTurns rest := by
  obtain ⟨-, keys, -⟩ := s.receiveAll_eq frame.events
  obtain ⟨-, state, next⟩ := s.playFrame_eq frame
  have quiet (t : Session) : (t.turns ((frame.events.takeWhile fun e => e.code ≠ .escape).map
      Action.key)).filter (fun turn => turn.action.isRun) = [] := by
    refine filter_isRun_turns fun action mem => ?_
    obtain ⟨e, -, rfl⟩ := List.mem_map.mp mem
    rfl
  rw [runTurns, Frame.allActions_cons, turns_append, List.filter_append, ← state, Frame.actions,
    turns_append, List.filter_append, quiet, List.nil_append, ← keys]
  cases quits : frame.quits with
  | true => rfl
  | false =>
      rw [if_neg Bool.false_ne_true, if_neg Bool.false_ne_true, if_neg Bool.false_ne_true, runTurns,
        next quits]
      rfl

theorem action_of_mem_runTurns {frames : List Frame} (mem : turn ∈ s.runTurns frames) :
    ∃ frame ∈ frames, turn.action = .run frame.budget := by
  obtain ⟨inTurns, isRun⟩ := List.mem_filter.mp mem
  have takes := Frame.takes_of_mem_allActions (action_mem_of_mem_turns inTurns)
  obtain ⟨t, action⟩ := turn
  cases takes with
  | run among => exact ⟨_, among, rfl⟩
  | key e | releaseStale | setFrame number => cases isRun

/-- Frames take no more steps than they may together. -/
theorem sum_steps_le (s : Session) (frames : List Frame) :
    ((s.runTurns frames).map Turn.steps).sum ≤ (frames.map Frame.budget).sum := by
  induction frames generalizing s with
  | nil => exact Nat.le_refl 0
  | cons frame rest ih =>
      rw [runTurns_cons, List.map_cons, List.sum_cons]
      split
      · exact Nat.zero_le _
      · rw [List.map_cons, List.sum_cons]
        exact Nat.add_le_add (countP_isStep_le _ frame.budget) (ih _)

theorem fault_receiveAll (s : Session) (events : List KeyEvent) :
    (s.receiveAll events).state.fault = s.fault := by
  induction events generalizing s with
  | nil => rfl
  | cons e rest ih =>
      simp only [receiveAll]
      split
      · exact (ih _).trans (fault_receive s e)
      · exact fault_receive s e

/-- Frames that are not disturbed take all their steps, each as many as it may. -/
theorem map_steps_runTurns {batches : List (List KeyEvent)} (unharmed : s.fault = none)
    (stays : ∀ batch ∈ batches, ∀ e ∈ batch, e.code ≠ .escape)
    (undisturbed : ∀ turn ∈ s.runTurns (batches.map fun events => ⟨events, budget⟩),
      ∀ moment ∈ turn.before.machine.history turn.operations, moment.Undisturbed) :
    (s.runTurns (batches.map fun events => ⟨events, budget⟩)).map Turn.steps =
      List.replicate batches.length budget := by
  induction batches generalizing s with
  | nil => rfl
  | cons events rest ih =>
      obtain ⟨first, others⟩ := List.forall_mem_cons.mp stays
      have goesOn : (⟨events, budget⟩ : Frame).quits = false :=
        List.any_eq_false.mpr fun e mem => by simpa using first e mem
      have keys : (s.receiveAll events).result = true := by
        rw [(s.receiveAll_eq events).1]
        exact congrArg (!·) goesOn
      have calm : (s.receiveAll events).state.releaseStale.fault = none :=
        (frozen_releaseStale _).fault.trans ((fault_receiveAll s events).trans unharmed)
      rw [List.map_cons, runTurns_cons, goesOn, if_neg Bool.false_ne_true] at undisturbed ⊢
      obtain ⟨now, later⟩ := List.forall_mem_cons.mp undisturbed
      obtain ⟨steps, after⟩ := countP_isStep_of_undisturbed calm now
      -- no step of the frame has failed, so the next frame begins without a fault as well
      have unharmedLater : (s.playFrame events budget).state.fault = none := by
        simp only [playFrame, keys, if_true]
        exact after
      rw [List.map_cons, List.length_cons, List.replicate_succ, ih unharmedLater others later]
      exact congrArg (· :: _) steps

end Session

/-! ## The share of a frame -/

namespace Options

variable {o : Options}

theorem one_le_frameBudget (o : Options) : 1 ≤ o.frameBudget :=
  Nat.le_max_left 1 _

/-- The frames of a second miss fewer instructions than there are frames. -/
theorem ips_lt (positive : 1 ≤ o.frameRate) :
    o.ips < o.frameBudget * o.frameRate + o.frameRate := by
  have shares := Nat.lt_div_mul_add (a := o.ips) positive
  have least := Nat.mul_le_mul_right o.frameRate (Nat.le_max_right 1 (o.ips / o.frameRate))
  rw [frameBudget]
  omega

/-- They execute no more than were asked for, or one each. -/
theorem frameBudget_mul_le (o : Options) :
    o.frameBudget * o.frameRate ≤ max o.ips o.frameRate := by
  rw [frameBudget]
  rcases Nat.le_total (o.ips / o.frameRate) 1 with few | many
  · rw [Nat.max_eq_left few, Nat.one_mul]
    exact Nat.le_max_right _ _
  · rw [Nat.max_eq_right many]
    exact Nat.le_trans (Nat.div_mul_le_self _ _) (Nat.le_max_left _ _)

/-- Worked out on 64 bits the share is the same. -/
theorem toNat_frameBudget (ips : o.ips < 18446744073709551616)
    (frameRate : o.frameRate < 18446744073709551616) :
    (max (UInt64.ofNat o.ips / UInt64.ofNat o.frameRate) 1).toNat = o.frameBudget := by
  rw [UInt64.toNat_max, UInt64.toNat_div, UInt64.toNat_ofNat_of_lt' ips,
    UInt64.toNat_ofNat_of_lt' frameRate, frameBudget, Nat.max_comm]
  rfl

end Options

namespace Session

/-- **The instructions of a second are shared out among its frames.**  Every two numbers from one up
to the largest of 64 bits are the instruction rate and the frame rate of an accepted command line,
and no others are.  So the share of a frame is worked out on 64 bits without a division by zero, and
nothing is lost.  It is at least one, and the shares of as many frames as there are in a second come
to no more than the instruction rate, unless there are more frames than instructions, and to more
than the instruction rate less the frame rate.

Take any session and play as many frames of it, with any key events.  In a turn that executes no
instructions only keys go down or up.  A turn that does has a whole share of them: its operations
are steps and ticks of the machine and lead to the machine after it, and without a fault the steps
are as many as its run has counted.  All of them together are no more than the larger of the two
rates.

If there is no fault, the user does not quit, and no step finds the program at its end, finds a
register waiting or fails, then each of the frames takes as many steps as its share, and together
they take more than the instruction rate less the frame rate. -/
theorem budget_shares_out_instructions :
    (∀ ips frameRate : Nat,
      (∃ words o, CommandLine.parse words = .ok o ∧ o.ips = ips ∧ o.frameRate = frameRate) ↔
        (1 ≤ ips ∧ ips < 2 ^ 64) ∧ 1 ≤ frameRate ∧ frameRate < 2 ^ 64) ∧
    ∀ (words : List String) (o : Options), CommandLine.parse words = .ok o →
      (UInt64.ofNat o.frameRate ≠ 0 ∧
        (max (UInt64.ofNat o.ips / UInt64.ofNat o.frameRate) 1).toNat = o.frameBudget ∧
        1 ≤ o.frameBudget) ∧
      ((o.ips : Int) - o.frameRate < o.frameBudget * o.frameRate ∧
        (o.frameBudget * o.frameRate : Int) ≤ max (o.ips : Int) o.frameRate) ∧
      ∀ (s : Session) (batches : List (List KeyEvent)), batches.length = o.frameRate →
        let frames : List Frame := batches.map fun events => ⟨events, o.frameBudget⟩
        let actions := Frame.allActions s.frame frames
        let record := s.turns actions
        let runs := record.filter fun turn => turn.action.isRun
        s.play frames = s.afterActions actions ∧
        (∀ turn ∈ record, turn.action.isRun = false →
          turn.before.machine.ChangedByKeys turn.after.machine) ∧
        (∀ turn ∈ runs, turn.action = .run o.frameBudget ∧
          turn.before.machine.after turn.operations = turn.after.machine ∧
          (∀ operation ∈ turn.operations,
            operation = .clock ∨ ∃ byte, operation = .step byte) ∧
          (turn.before.fault = none →
            turn.steps = (turn.before.machine.run turn.before.entropy o.frameBudget).steps)) ∧
        (runs.map Turn.steps).sum ≤ max o.ips o.frameRate ∧
        (s.fault = none → (∀ batch ∈ batches, ∀ e ∈ batch, e.code ≠ .escape) →
          (∀ turn ∈ runs, ∀ moment ∈ turn.before.machine.history turn.operations,
            moment.Undisturbed) →
          runs.map Turn.steps = List.replicate o.frameRate o.frameBudget ∧
          (o.ips : Int) - o.frameRate < (runs.map Turn.steps).sum) := by
  refine ⟨?_, ?_⟩
  · intro ips frameRate
    constructor
    · rintro ⟨words, o, accepted, rfl, rfl⟩
      exact CommandLine.rates_of_parse accepted
    · rintro ⟨ipsInRange, frameRateInRange⟩
      exact ⟨_, _, CommandLine.parse_of_rates ipsInRange frameRateInRange, rfl, rfl⟩
  · intro words o accepted
    -- the parser is all that keeps the frame rate from zero
    obtain ⟨⟨-, ipsFits⟩, positive, frameRateFits⟩ := CommandLine.rates_of_parse accepted
    have missed := Options.ips_lt positive
    have most := o.frameBudget_mul_le
    refine ⟨⟨?_, Options.toNat_frameBudget ipsFits frameRateFits, o.one_le_frameBudget⟩,
      ⟨?_, ?_⟩, ?_⟩
    · intro zero
      have value := UInt64.toNat_ofNat_of_lt' frameRateFits
      rw [zero] at value
      exact absurd (value.symm.trans UInt64.toNat_zero) (Nat.ne_of_gt positive)
    · omega
    · omega
    · intro s batches second frames actions record runs
      refine ⟨play_eq s frames, fun _ mem other => changedByKeys_of_mem_turns mem other, ?_, ?_, ?_⟩
      · rintro ⟨t, action⟩ mem
        obtain ⟨frame, among, rfl⟩ : ∃ frame ∈ frames, action = .run frame.budget :=
          action_of_mem_runTurns mem
        obtain ⟨events, -, rfl⟩ := List.mem_map.mp among
        exact ⟨rfl, after_operations t o.frameBudget, fun _ => mem_operations,
          fun unharmed => countP_isStep_eq_steps unharmed o.frameBudget⟩
      · have shares : (frames.map Frame.budget).sum = o.frameBudget * o.frameRate := by
          rw [List.map_map, ← second, Nat.mul_comm, ← List.sum_replicate_nat]
          exact congrArg List.sum List.map_const'
        have together := sum_steps_le s frames
        rw [shares] at together
        exact Nat.le_trans together most
      · intro unharmed stays undisturbed
        have all : runs.map Turn.steps = List.replicate batches.length o.frameBudget :=
          map_steps_runTurns unharmed stays undisturbed
        rw [second] at all
        refine ⟨all, ?_⟩
        rw [all, List.sum_replicate_nat, Nat.mul_comm]
        omega

/-- Seven instructions a second in three frames are two a frame, one less than were asked for.  A
program that jumps on the spot takes all of them, whatever keys are pressed. -/
theorem three_frames_of_two_jumps :
    let words := ["--ips", "7", "--frame-rate", "3", "rom.ch8"]
    let o : Options := ⟨"rom.ch8", 7, 3, .superChip, none, .info⟩
    let s := (Session.new ⟨fun _ => 0, 0⟩).act (.load [0x12, 0x00])
    let batches : List (List KeyEvent) := [[⟨.char 'x', .press⟩], [], [⟨.char 'x', .release⟩]]
    let frames : List Frame := batches.map fun events => ⟨events, o.frameBudget⟩
    let runs := (s.turns (Frame.allActions s.frame frames)).filter fun turn => turn.action.isRun
    CommandLine.parse words = .ok o ∧ o.frameBudget = 2 ∧
    (∀ turn ∈ runs, ∀ moment ∈ turn.before.machine.history turn.operations,
      moment.result = none ∨ moment.result = some (.ok (.executed .jump))) ∧
    runs.map Turn.steps = [2, 2, 2] ∧
    (∀ turn ∈ runs, turn.before.fault = none →
      turn.steps = (turn.before.machine.run turn.before.entropy o.frameBudget).steps) ∧
    (runs.map Turn.steps).sum ≤ 7 ∧ (7 : Int) - 3 < (runs.map Turn.steps).sum := by
  intro words o s batches frames runs
  have accepted : CommandLine.parse words = .ok o := by decide +kernel
  have share : o.frameBudget = 2 := by decide
  have jumps : ∀ turn ∈ runs, ∀ moment ∈ turn.before.machine.history turn.operations,
      moment.result = none ∨ moment.result = some (.ok (.executed .jump)) := by decide +kernel
  obtain ⟨-, second⟩ := budget_shares_out_instructions
  obtain ⟨-, -, played⟩ := second words o accepted
  obtain ⟨-, -, counted, most, all⟩ := played s batches rfl
  obtain ⟨steps, least⟩ := all rfl (by decide) fun turn mem moment among => by
    rcases jumps turn mem moment among with none | jump
    · constructor <;> rw [none] <;> exact nofun
    · constructor <;> rw [jump] <;> exact nofun
  exact ⟨accepted, share, jumps, steps.trans (congrArg (List.replicate 3) share),
    fun turn mem => (counted turn mem).2.2.2, most, least⟩

end Session

end Chip8
