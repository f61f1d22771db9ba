import Chip8.Proofs.Keys
import Chip8.Terminal.Launch
import Mathlib.Data.List.Induction

/-!
# Held keys at the terminal

A session keeps two records of which keys are held: the machine has a flag for each key, and the
session remembers in which frame it last saw the key down.  Key events change both, keys that have
not been seen for a while are dropped from both, and the instructions of a frame touch neither.  So
the two records always agree, and what they say is determined by the events that have arrived: a key
is held if the last of its events was no release and is not too old.

The invariant is `Session.Tracks`.  Between two frames it speaks of the age that a key had when old
keys were last released, which is one frame less than its age now.

## Main definitions

* `KeyEvent.numbered`, `KeyEvent.lastOf` — the events of a session, and the last one of a key
* `Frame`, `Session.afterFrames` — whole frames, one after the other
* `Session.Fresh` — no frame has passed and no key is held
* `Session.KeysAgree` — the two records say the same
* `Session.Tracks` — the records are those of a list of events

## Main statements

* `Tracks.receive`, `Tracks.releaseStale`, `Tracks.run` — what happens in a frame keeps the records
  right
* `tracks_afterFrames` — so they are right after any number of frames
* `held_keys_follow_events` — the keys held in a frame, read off the events
-/

namespace Chip8

/-! ## Events -/

namespace KeyEvent

/-- The key events of a list of batches in their order, each with the number of its batch. -/
def numbered (batches : List (List KeyEvent)) : List (Nat × KeyEvent) :=
  batches.zipIdx.flatMap fun batch => batch.1.map fun e => (batch.2, e)

/-- The last event of a key, with its number. -/
def lastOf (k : Key) (events : List (Nat × KeyEvent)) : Option (Nat × KeyEvent) :=
  (events.filter fun e => e.2.code.key? = some k).getLast?

/-- The number of the last event of a key, unless that is a release. -/
def heldSince (k : Key) (events : List (Nat × KeyEvent)) : Option Nat :=
  match lastOf k events with
  | some (frame, e) => if e.kind = .release then none else some frame
  | none => none

theorem numbered_concat (batches : List (List KeyEvent)) (last : List KeyEvent) :
    numbered (batches ++ [last]) = numbered batches ++ last.map fun e => (batches.length, e) := by
  simp [numbered, List.zipIdx_append]

theorem lastOf_concat (k : Key) (events : List (Nat × KeyEvent)) (frame : Nat) (e : KeyEvent) :
    lastOf k (events ++ [(frame, e)]) =
      if e.code.key? = some k then some (frame, e) else lastOf k events := by
  by_cases own : e.code.key? = some k
  · simp [lastOf, own]
  · simp [lastOf, own]

theorem heldSince_concat_of_ne {k : Key} {e : KeyEvent} (other : e.code.key? ≠ some k)
    (events : List (Nat × KeyEvent)) (frame : Nat) :
    heldSince k (events ++ [(frame, e)]) = heldSince k events := by
  rw [heldSince, lastOf_concat, if_neg other, heldSince]

theorem heldSince_concat_of_release {k : Key} {e : KeyEvent} (own : e.code.key? = some k)
    (released : e.kind = .release) (events : List (Nat × KeyEvent)) (frame : Nat) :
    heldSince k (events ++ [(frame, e)]) = none := by
  simp only [heldSince, lastOf_concat, own, released, if_true]

theorem heldSince_concat_of_down {k : Key} {e : KeyEvent} (own : e.code.key? = some k)
    (down : e.kind ≠ .release) (events : List (Nat × KeyEvent)) (frame : Nat) :
    heldSince k (events ++ [(frame, e)]) = some frame := by
  simp only [heldSince, lastOf_concat, own, down, if_true, if_false]

theorem heldSince_eq_some_iff {k : Key} {events : List (Nat × KeyEvent)} {frame : Nat} :
    heldSince k events = some frame ↔
      ∃ e, lastOf k events = some (frame, e) ∧ (e.kind = .press ∨ e.kind = .held) := by
  cases last : lastOf k events with
  | none => simp [heldSince, last]
  | some found =>
      obtain ⟨number, e⟩ := found
      simp only [heldSince, last, Option.some.injEq, Prod.mk.injEq, and_assoc, exists_and_left,
        exists_eq_left']
      cases e.kind <;> simp

end KeyEvent

/-- What comes from outside in a frame: the key events that arrive before it, and the number of
instructions it may execute. -/
structure Frame where
  events : List KeyEvent
  budget : Nat
deriving DecidableEq, Repr

namespace Session

/-- The session after a list of frames. -/
def afterFrames (s : Session) (frames : List Frame) : Session :=
  frames.foldl (fun t frame => (t.playFrame frame.events frame.budget).state) s

theorem afterFrames_concat (s : Session) (frames : List Frame) (last : Frame) :
    s.afterFrames (frames ++ [last]) =
      ((s.afterFrames frames).playFrame last.events last.budget).state := by
  simp [afterFrames]

/-- No frame has passed, and no key is held. -/
structure Fresh (s : Session) : Prop where
  frame : s.frame = 0
  seen : ∀ k, s.seen k = none
  released : ∀ k, s.machine.keypad.isHeld k = false

theorem fresh_new (entropy : Entropy) : (Session.new entropy).Fresh where
  frame := rfl
  seen k := Vector.getElem_replicate k.val_lt
  released := Keypad.isHeld_idle

theorem start_of_contents (s : Session) (o : Options) (image : List UInt8)
    (reportsReleases : Bool) :
    (s.start o (some image) reportsReleases).state =
      { s with
        machine := (s.machine.load image).state.setMode o.mode
        reportsReleases := reportsReleases } := rfl

/-- A session that is set up for a program is fresh, whether the program could be loaded or not. -/
theorem fresh_start (entropy : Entropy) (o : Options) (contents : Option (List UInt8))
    (reportsReleases : Bool) :
    ((Session.new entropy).start o contents reportsReleases).state.Fresh := by
  have new := fresh_new entropy
  cases contents with
  | none => exact new
  | some image =>
      rw [start_of_contents]
      refine ⟨new.frame, ?_, ?_⟩
      · intro k
        simpa only [seen] using new.seen k
      · -- loading a program keeps the keys that are held, and here there are none
        intro k
        exact (Keypad.isHeld_dropWait _ k).trans (new.released k)

/-- A key has been seen down exactly if the machine takes it to be held. -/
def KeysAgree (s : Session) : Prop :=
  ∀ k, (s.seen k).isSome = s.machine.keypad.isHeld k

/-! ## Changing one key -/

section OneKey

variable (s : Session) (k l : Key)

theorem get_set {α : Type} (stamps : Vector α 16) (stamp : α) :
    (stamps.set k.val stamp k.val_lt).get l = if l = k then stamp else stamps.get l := by
  change (stamps.set k.val stamp k.val_lt)[l.val] = if l = k then stamp else stamps[l.val]
  simp only [Vector.getElem_set, Fin.ext_iff, eq_comm]

theorem seen_keyDown : (s.keyDown k).state.seen l = if l = k then some s.frame else s.seen l := by
  have stamped : (s.keyDown k).state.lastSeen = s.lastSeen.set k.val (some s.frame) := by
    rw [keyDown]
    split <;> rfl
  rw [seen, stamped, get_set, seen]

theorem seen_keyUp : (s.keyUp k).seen l = if l = k then none else s.seen l :=
  get_set k l s.lastSeen none

/-- Whether or not the machine is told, the key is held afterwards. -/
theorem isHeld_keyDown : (s.keyDown k).state.machine.keypad.isHeld l =
    (decide (l = k) || s.machine.keypad.isHeld l) := by
  rw [keyDown]
  split
  · next held =>
    by_cases same : l = k
    · simp [same, held]
    · simp [same]
  · rw [Machine.keyDown_keypad, Keypad.isHeld_press]

theorem isHeld_keyUp : (s.keyUp k).machine.keypad.isHeld l =
    (!decide (l = k) && s.machine.keypad.isHeld l) :=
  Keypad.isHeld_release s.machine.keypad k l

@[simp] theorem frame_keyDown : (s.keyDown k).state.frame = s.frame := by
  rw [keyDown]
  split <;> rfl

@[simp] theorem reportsReleases_keyDown :
    (s.keyDown k).state.reportsReleases = s.reportsReleases := by
  rw [keyDown]
  split <;> rfl

variable {s}

theorem KeysAgree.keyDown (agree : s.KeysAgree) : (s.keyDown k).state.KeysAgree := by
  intro l
  rw [seen_keyDown, isHeld_keyDown, ← agree l]
  by_cases same : l = k <;> simp [same]

theorem KeysAgree.keyUp (agree : s.KeysAgree) : (s.keyUp k).KeysAgree := by
  intro l
  rw [seen_keyUp, isHeld_keyUp, ← agree l]
  by_cases same : l = k <;> simp [same]

end OneKey

/-! ## Records of events -/

/-- The session is in the frame `now`, `told` says whether releases are reported, and its records
are those of the events: a key is held since its last event if that is no release and, unless
releases are reported, was at most six frames old in the frame `checked`. -/
structure Tracks (s : Session) (told : Bool) (now checked : Nat) (events : List (Nat × KeyEvent)) :
    Prop where
  reportsReleases : s.reportsReleases = told
  frame : s.frame = now
  seen_iff : ∀ k since, s.seen k = some since ↔
    KeyEvent.heldSince k events = some since ∧ (told = true ∨ checked - since ≤ 6)
  agree : s.KeysAgree

variable {s : Session} {told : Bool} {now checked : Nat} {events : List (Nat × KeyEvent)}

theorem Fresh.tracks (fresh : s.Fresh) : s.Tracks s.reportsReleases 0 0 [] where
  reportsReleases := rfl
  frame := fresh.frame
  seen_iff k since := by
    rw [fresh.seen]
    exact ⟨nofun, fun h => nomatch h.1⟩
  agree k := by
    rw [fresh.seen, fresh.released]
    rfl

/-- A press or a repetition brings the records up to date with itself. -/
theorem Tracks.keyDown (tracks : s.Tracks told now checked events) (recent : checked ≤ now)
    {e : KeyEvent} {k : Key} (own : e.code.key? = some k) (down : e.kind ≠ .release) :
    (s.keyDown k).state.Tracks told now checked (events ++ [(now, e)]) where
  reportsReleases := (reportsReleases_keyDown s k).trans tracks.reportsReleases
  frame := (frame_keyDown s k).trans tracks.frame
  seen_iff l since := by
    rw [seen_keyDown, tracks.frame]
    by_cases same : l = k
    · subst same
      rw [if_pos rfl, KeyEvent.heldSince_concat_of_down own down]
      constructor
      · intro since_eq
        refine ⟨since_eq, .inr ?_⟩
        cases since_eq
        omega
      · exact And.left
    · have other : e.code.key? ≠ some l := by
        rw [own]
        exact fun key => same (Option.some.inj key).symm
      rw [if_neg same, KeyEvent.heldSince_concat_of_ne other]
      exact tracks.seen_iff l since
  agree := tracks.agree.keyDown k

/-- And so does a release. -/
theorem Tracks.keyUp (tracks : s.Tracks told now checked events) {e : KeyEvent} {k : Key}
    (own : e.code.key? = some k) (released : e.kind = .release) :
    (s.keyUp k).Tracks told now checked (events ++ [(now, e)]) where
  reportsReleases := tracks.reportsReleases
  frame := tracks.frame
  seen_iff l since := by
    rw [seen_keyUp]
    by_cases same : l = k
    · subst same
      rw [if_pos rfl, KeyEvent.heldSince_concat_of_release own released]
      exact ⟨nofun, fun h => nomatch h.1⟩
    · have other : e.code.key? ≠ some l := by
        rw [own]
        exact fun key => same (Option.some.inj key).symm
      rw [if_neg same, KeyEvent.heldSince_concat_of_ne other]
      exact tracks.seen_iff l since
  agree := tracks.agree.keyUp k

/-- An event of a key that is not on the keypad changes nothing. -/
theorem Tracks.unmapped (tracks : s.Tracks told now checked events) {e : KeyEvent}
    (unmapped : e.code.key? = none) : s.Tracks told now checked (events ++ [(now, e)]) where
  reportsReleases := tracks.reportsReleases
  frame := tracks.frame
  seen_iff l since := by
    rw [KeyEvent.heldSince_concat_of_ne (by rw [unmapped]; exact nofun)]
    exact tracks.seen_iff l since
  agree := tracks.agree

/-- A key event other than Escape brings the records up to date with itself. -/
theorem Tracks.receive (tracks : s.Tracks told now checked events) (recent : checked ≤ now)
    {e : KeyEvent} (goesOn : e.code ≠ .escape) :
    (s.receive e).result = true ∧
      (s.receive e).state.Tracks told now checked (events ++ [(now, e)]) := by
  rw [Session.receive, if_neg goesOn]
  cases key : e.code.key? with
  | none => exact ⟨rfl, tracks.unmapped key⟩
  | some k =>
      cases kind : e.kind with
      | press => exact ⟨rfl, tracks.keyDown recent key (by rw [kind]; exact nofun)⟩
      | held => exact ⟨rfl, tracks.keyDown recent key (by rw [kind]; exact nofun)⟩
      | release => exact ⟨rfl, tracks.keyUp key kind⟩

theorem Tracks.receiveAll (tracks : s.Tracks told now checked events) (recent : checked ≤ now)
    {batch : List KeyEvent} (goesOn : ∀ e ∈ batch, e.code ≠ .escape) :
    (s.receiveAll batch).result = true ∧
      (s.receiveAll batch).state.Tracks told now checked
        (events ++ batch.map fun e => (now, e)) := by
  induction batch generalizing s events with
  | nil =>
      rw [List.map_nil, List.append_nil]
      exact ⟨rfl, tracks⟩
  | cons e rest ih =>
      obtain ⟨taken, first⟩ := tracks.receive recent (goesOn e List.mem_cons_self)
      obtain ⟨others, last⟩ := ih first fun other mem => goesOn other (List.mem_cons_of_mem _ mem)
      rw [List.append_assoc] at last
      simp only [Session.receiveAll, taken, if_true]
      exact ⟨others, last⟩

/-! ## Keys that have not been seen for a while -/

/-- A key goes up if it has not been seen for a while. -/
def releaseIfExpired (s : Session) (k : Key) : Session :=
  if s.expired k then s.keyUp k else s

@[simp] theorem frame_releaseIfExpired (s : Session) (k : Key) :
    (s.releaseIfExpired k).frame = s.frame := by
  rw [releaseIfExpired]
  split <;> rfl

@[simp] theorem reportsReleases_releaseIfExpired (s : Session) (k : Key) :
    (s.releaseIfExpired k).reportsReleases = s.reportsReleases := by
  rw [releaseIfExpired]
  split <;> rfl

theorem KeysAgree.releaseIfExpired (agree : s.KeysAgree) (k : Key) :
    (s.releaseIfExpired k).KeysAgree := by
  rw [Session.releaseIfExpired]
  split
  · exact agree.keyUp k
  · exact agree

/-- What is left of the record of the key is not old. -/
theorem seen_releaseIfExpired_iff {k l : Key} {since : Nat} :
    (s.releaseIfExpired k).seen l = some since ↔
      s.seen l = some since ∧ (l = k → s.frame - since ≤ graceFrames) := by
  rw [releaseIfExpired]
  by_cases same : l = k
  · subst same
    cases seen : s.seen l with
    | none => simp [expired, seen]
    | some last =>
        by_cases old : graceFrames < s.frame - last
        · simp only [expired, seen, Option.any_some, old, decide_true, if_true, seen_keyUp,
            reduceCtorEq, Option.some.injEq, forall_const, false_iff, not_and]
          rintro rfl
          exact Nat.not_le_of_lt old
        · simp only [expired, seen, Option.any_some, old, decide_false, Bool.false_eq_true,
            if_false, Option.some.injEq, forall_const, iff_self_and]
          rintro rfl
          exact Nat.le_of_not_lt old
  · simp only [same, false_imp_iff, and_true]
    split
    · rw [seen_keyUp, if_neg same]
    · rfl

/-- Going through a list of keys leaves no old record of any of them. -/
theorem seen_foldl_releaseIfExpired_iff {keys : List Key} {l : Key} {since : Nat} :
    (keys.foldl releaseIfExpired s).seen l = some since ↔
      s.seen l = some since ∧ (l ∈ keys → s.frame - since ≤ graceFrames) := by
  induction keys generalizing s with
  | nil => simp
  | cons k rest ih =>
      rw [List.foldl_cons, ih, seen_releaseIfExpired_iff, frame_releaseIfExpired, List.mem_cons,
        or_imp, and_assoc]

/-- Releasing old keys brings the records up to the present frame. -/
theorem Tracks.releaseStale (tracks : s.Tracks told now checked events)
    (recent : checked ≤ now) : s.releaseStale.Tracks told now now events := by
  rw [Session.releaseStale, tracks.reportsReleases]
  cases told with
  | true =>
      rw [if_pos rfl]
      refine ⟨tracks.reportsReleases, tracks.frame, ?_, tracks.agree⟩
      intro k since
      rw [tracks.seen_iff]
      simp only [true_or]
  | false =>
      change ((List.finRange 16).foldl releaseIfExpired s).Tracks false now now events
      obtain ⟨reports, frame, agree⟩ := List.foldlRecOn (List.finRange 16) releaseIfExpired
        (motive := fun t => t.reportsReleases = false ∧ t.frame = now ∧ t.KeysAgree)
        ⟨tracks.reportsReleases, tracks.frame, tracks.agree⟩ fun t kept k _ =>
          ⟨(reportsReleases_releaseIfExpired t k).trans kept.1,
            (frame_releaseIfExpired t k).trans kept.2.1, kept.2.2.releaseIfExpired k⟩
      refine ⟨reports, frame, ?_, agree⟩
      intro k since
      rw [seen_foldl_releaseIfExpired_iff, tracks.seen_iff, tracks.frame]
      simp only [List.mem_finRange, forall_const, Bool.false_eq_true, false_or, and_assoc]
      refine and_congr_right fun _ => ?_
      simp only [graceFrames]
      omega

/-! ## The instructions of a frame -/

/-- The instructions of a run hold and release no key. -/
theorem isHeld_run (m : Machine) (entropy : Entropy) (limit : Nat) (k : Key) :
    (m.run entropy limit).machine.keypad.isHeld k = m.keypad.isHeld k := by
  have advance (limit : Nat) (r : Run) :
      (r.advance limit).machine.keypad.isHeld k = r.machine.keypad.isHeld k := by
    induction limit generalizing r with
    | zero => rfl
    | succ limit ih =>
        rw [Run.advance_succ]
        split
        · rw [ih, Run.step, Machine.step_isHeld]
        · rfl
  exact advance limit _

/-- The instructions of a frame leave the records alone. -/
theorem Tracks.run (tracks : s.Tracks told now checked events) (budget : Nat) :
    (s.run budget).state.Tracks told now checked events := by
  rw [Session.run]
  split
  · exact tracks
  · refine ⟨tracks.reportsReleases, tracks.frame, tracks.seen_iff, ?_⟩
    intro k
    exact (tracks.agree k).trans (isHeld_run s.machine s.entropy budget k).symm

/-! ## Whole frames -/

theorem Tracks.playFrame (tracks : s.Tracks told now checked events) (recent : checked ≤ now)
    {frame : Frame} (goesOn : ∀ e ∈ frame.events, e.code ≠ .escape) :
    (s.playFrame frame.events frame.budget).state.Tracks told (now + 1) now
      (events ++ frame.events.map fun e => (now, e)) := by
  obtain ⟨taken, keyed⟩ := tracks.receiveAll recent goesOn
  have played := (keyed.releaseStale recent).run frame.budget
  simp only [Session.playFrame, taken, if_true]
  exact ⟨played.reportsReleases, congrArg (· + 1) played.frame, played.seen_iff, played.agree⟩

/-- After any number of frames the records are those of all events that have arrived. -/
theorem tracks_afterFrames (fresh : s.Fresh) {frames : List Frame}
    (goesOn : ∀ frame ∈ frames, ∀ e ∈ frame.events, e.code ≠ .escape) :
    (s.afterFrames frames).Tracks s.reportsReleases frames.length (frames.length - 1)
      (KeyEvent.numbered (frames.map Frame.events)) := by
  induction frames using List.reverseRecOn with
  | nil => exact fresh.tracks
  | append_singleton frames last ih =>
      have before := ih fun frame mem => goesOn frame (List.mem_append_left _ mem)
      have after := before.playFrame (Nat.sub_le _ _)
        (goesOn last (List.mem_append_right _ (List.mem_singleton_self last)))
      rw [afterFrames_concat, List.map_append, List.map_singleton, KeyEvent.numbered_concat,
        List.length_append, List.length_singleton, List.length_map]
      exact after

/-- A key is held exactly if its last event was no release and is recent enough. -/
theorem Tracks.isHeld_iff (tracks : s.Tracks told now checked events) (k : Key) :
    s.machine.keypad.isHeld k = true ↔
      ∃ since e, KeyEvent.lastOf k events = some (since, e) ∧
        (e.kind = .press ∨ e.kind = .held) ∧ (told = true ∨ checked - since ≤ 6) := by
  rw [← tracks.agree k, Option.isSome_iff_exists]
  refine exists_congr fun since => ?_
  rw [tracks.seen_iff, KeyEvent.heldSince_eq_some_iff]
  constructor
  · rintro ⟨⟨e, last, down⟩, recent⟩
    exact ⟨e, last, down, recent⟩
  · rintro ⟨e, last, down, recent⟩
    exact ⟨⟨e, last, down⟩, recent⟩

/-- **Held keys follow the key events.**  Let frames be played from a fresh session, none of them
with an Escape.  In the frame that comes after the frames `before`, once old keys have been released
and throughout the instructions, a key is held if and only if it has had an event, the last of its
events was a press or a repetition, and either releases are reported or that event arrived at most
six frames ago.  After each single event, after the release of old keys and after the instructions
the session has a record of exactly the keys that are held. -/
theorem held_keys_follow_events (s : Session) (fresh : s.Fresh) (before : List Frame)
    (frame : Frame)
    (goesOn : ∀ other ∈ before ++ [frame], ∀ e ∈ other.events, e.code ≠ .escape) :
    let start := s.afterFrames before
    let settled := (start.receiveAll frame.events).state.releaseStale
    let events := KeyEvent.numbered ((before ++ [frame]).map Frame.events)
    (∀ k, settled.machine.keypad.isHeld k = true ↔
      ∃ since e, KeyEvent.lastOf k events = some (since, e) ∧
        (e.kind = .press ∨ e.kind = .held) ∧
        (s.reportsReleases = true ∨ before.length - since ≤ 6)) ∧
    (∀ (steps : Nat) (k : Key),
      (settled.machine.run settled.entropy steps).machine.keypad.isHeld k =
        settled.machine.keypad.isHeld k) ∧
    (∀ count, (start.receiveAll (frame.events.take count)).state.KeysAgree) ∧
    settled.KeysAgree ∧
    (settled.run frame.budget).state.KeysAgree := by
  intro start settled events
  have started := tracks_afterFrames fresh fun other mem =>
    goesOn other (List.mem_append_left _ mem)
  have recent : before.length - 1 ≤ before.length := Nat.sub_le _ _
  have plain : ∀ e ∈ frame.events, e.code ≠ .escape :=
    goesOn frame (List.mem_append_right _ (List.mem_singleton_self frame))
  have keyed := (started.receiveAll recent plain).2.releaseStale recent
  have all : KeyEvent.numbered (before.map Frame.events) ++
      (frame.events.map fun e => (before.length, e)) = events := by
    simp only [events, List.map_append, List.map_singleton, KeyEvent.numbered_concat,
      List.length_map]
  rw [all] at keyed
  refine ⟨keyed.isHeld_iff, isHeld_run _ _, ?_, keyed.agree, (keyed.run frame.budget).agree⟩
  intro count
  exact (started.receiveAll recent fun e mem => plain e (List.mem_of_mem_take mem)).2.agree

/-- `X` and `Q` are pressed in frame 0 of a program that jumps to itself, and `Q` is released in
frame 6; no other event arrives.  In frame 6 key 0 is still held, and key 4 is not. -/
theorem pressed_key_is_held_for_six_frames :
    let o : Options := ⟨"loop.ch8", 700, 60, .superChip, none, .info⟩
    let s := ((Session.new ⟨fun _ => 0, 0⟩).start o (some [0x12, 0x00]) false).state
    let before : List Frame :=
      ⟨[⟨.char 'X', .press⟩, ⟨.other, .press⟩, ⟨.char 'q', .press⟩], 11⟩ ::
        List.replicate 5 ⟨[], 11⟩
    let frame : Frame := ⟨[⟨.char 'q', .release⟩], 11⟩
    let settled := ((s.afterFrames before).receiveAll frame.events).state.releaseStale
    s.Fresh ∧ (∀ other ∈ before ++ [frame], ∀ e ∈ other.events, e.code ≠ .escape) ∧
    settled.machine.keypad.isHeld 0 = true ∧ settled.machine.keypad.isHeld 4 ≠ true ∧
    settled.KeysAgree := by
  intro o s before frame
  have fresh : s.Fresh := fresh_start _ _ _ _
  have goesOn : ∀ other ∈ before ++ [frame], ∀ e ∈ other.events, e.code ≠ .escape := by decide
  obtain ⟨held, -, -, agree, -⟩ := held_keys_follow_events s fresh before frame goesOn
  have pressed : KeyEvent.lastOf 0 (KeyEvent.numbered ((before ++ [frame]).map Frame.events)) =
      some (0, ⟨.char 'X', .press⟩) := by decide +kernel
  have released : KeyEvent.lastOf 4 (KeyEvent.numbered ((before ++ [frame]).map Frame.events)) =
      some (6, ⟨.char 'q', .release⟩) := by decide +kernel
  have held0 := (held 0).mpr ⟨0, _, pressed, .inl rfl, .inr (by decide)⟩
  refine ⟨fresh, goesOn, held0, ?_, agree⟩
  intro held4
  obtain ⟨since, e, last, down, -⟩ := (held 4).mp held4
  rw [released] at last
  cases last
  exact absurd down (by decide)

end Session

end Chip8
