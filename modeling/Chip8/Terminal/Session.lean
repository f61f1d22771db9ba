import Chip8.Machine.Control
import Chip8.Run
import Chip8.Terminal.Keyboard

/-!
# Sessions

A session is the machine at a terminal.  Time goes by in frames: the key events that have arrived
are passed to the machine, keys that have not been seen for a while go up, some instructions are
executed, and the timers tick once.

Most terminals never tell when a key goes up; they only repeat a key that is held.  For those a
key counts as held until it has not been repeated for more than six frames.

An error ends the program for good: it is kept as the fault of the session, and from then on
frames leave the machine alone.

## Main definitions

* `Session` — the machine, its random bytes, and what the terminal side remembers
* `Session.receive`, `Session.receiveAll` — key events, of which Escape asks to quit
* `Session.releaseStale` — keys that have not been seen for a while go up
* `Session.run` — the instructions of a frame and one tick
* `Session.playFrame` — a whole frame
-/

namespace Chip8

/-- The machine at a terminal. -/
structure Session where
  machine : Machine
  entropy : Entropy
  /-- For each key the number of the frame in which it was last seen down, if it is held. -/
  lastSeen : Vector (Option Nat) 16
  /-- The terminal tells when a key goes up. -/
  reportsReleases : Bool
  /-- The number of the frame. -/
  frame : Nat
  /-- The error that ended the program. -/
  fault : Option Error

namespace Session

/-- How many frames a key stays held after it was last seen, if releases are not reported. -/
abbrev graceFrames : Nat := 6

/-- A session with a machine that has just been switched on. -/
def new (entropy : Entropy) : Session where
  machine := .powerOn
  entropy := entropy
  lastSeen := Vector.replicate 16 none
  reportsReleases := false
  frame := 0
  fault := none

/-- The frame in which a key was last seen down, if it is held. -/
def seen (s : Session) (k : Key) : Option Nat :=
  s.lastSeen.get k

/-- A key is down.  For the machine it goes down only if it was not held. -/
def keyDown (s : Session) (k : Key) : Reply Session Unit :=
  let stamped := s.lastSeen.set k.val (some s.frame) k.val_lt
  if s.machine.keypad.isHeld k then ⟨(), { s with lastSeen := stamped }, []⟩
  else
    let reply := s.machine.keyDown k
    ⟨(), { s with machine := reply.state, lastSeen := stamped }, reply.log⟩

/-- A key goes up. -/
def keyUp (s : Session) (k : Key) : Session :=
  { s with machine := s.machine.keyUp k, lastSeen := s.lastSeen.set k.val none k.val_lt }

/-- Passes on a key event.  The result is false if the user asks to quit. -/
def receive (s : Session) (e : KeyEvent) : Reply Session Bool :=
  if e.code = .escape then ⟨false, s, []⟩
  else
    match e.code.key? with
    | none => ⟨true, s, []⟩
    | some k =>
      match e.kind with
      | .press | .held =>
        let reply := s.keyDown k
        ⟨true, reply.state, reply.log⟩
      | .release => ⟨true, s.keyUp k, []⟩

/-- Passes on key events in order, up to one that asks to quit. -/
def receiveAll (s : Session) : List KeyEvent → Reply Session Bool
  | [] => ⟨true, s, []⟩
  | e :: rest =>
    let first := s.receive e
    if first.result then
      let others := first.state.receiveAll rest
      ⟨others.result, others.state, first.log ++ others.log⟩
    else first

/-- A key was last seen so long ago that it no longer counts as held. -/
def expired (s : Session) (k : Key) : Bool :=
  (s.seen k).any fun pressed => graceFrames < s.frame - pressed

/-- Unless releases are reported, the keys that have not been seen for a while go up. -/
def releaseStale (s : Session) : Session :=
  if s.reportsReleases then s
  else (List.finRange 16).foldl (fun t k => if t.expired k then t.keyUp k else t) s

/-- What is reported when a run ends with an error. -/
def faultReport (r : Run) : List Event :=
  match r.error? with
  | some e => [.executionStopped e r.machine.pc]
  | none => []

/-- Executes up to `count` instructions and ticks the timers once.  After a fault nothing
happens any more. -/
def run (s : Session) (count : Nat) : Reply Session Unit :=
  if s.fault.isSome then ⟨(), s, []⟩
  else
    let r := s.machine.run s.entropy count
    ⟨(), { s with machine := r.machine.tick, entropy := r.entropy, fault := r.error? },
      r.log.toList ++ faultReport r⟩

/-- A whole frame with the key events that have arrived and the number of instructions it may
execute.  The result is false if the user asked to quit, which ends the frame at once. -/
def playFrame (s : Session) (events : List KeyEvent) (count : Nat) : Reply Session Bool :=
  let keys := s.receiveAll events
  if keys.result then
    let run := keys.state.releaseStale.run count
    ⟨true, { run.state with frame := run.state.frame + 1 }, keys.log ++ run.log⟩
  else keys

end Session

end Chip8
