import Chip8.Machine.Step

/-!
# Runs

Steps taken one after the other, with the random bytes from a stream.  A run goes on until a step
fails, finds the end of the program or waits for a key, or until it has taken as many steps as
it may.

## Main definitions

* `Entropy` — a stream of random bytes, of which some have been used
* `Run` — how far a run has come
* `Run.step`, `Run.advance` — taking one step more, or up to a number of them
* `Machine.run` — a run from its beginning
-/

namespace Chip8

/-- A stream of random bytes, and how many of them have been used. -/
structure Entropy where
  byte : Nat → UInt8
  used : Nat

namespace Entropy

/-- The next byte. -/
def next (e : Entropy) : UInt8 :=
  e.byte e.used

/-- The stream after a step with the given result: only a random instruction takes a byte. -/
def after (e : Entropy) : Except Error Outcome → Entropy
  | .ok (.executed .random) => { e with used := e.used + 1 }
  | _ => e

end Entropy

/-- How far a run has come. -/
structure Run where
  machine : Machine
  entropy : Entropy
  /-- The number of steps taken, a failing one included. -/
  steps : Nat
  /-- The result of the last step, if there was one. -/
  last : Option (Except Error Outcome)
  log : Array Event

namespace Run

/-- Before the first step. -/
def start (m : Machine) (entropy : Entropy) : Run :=
  ⟨m, entropy, 0, none, #[]⟩

/-- Whether another step may follow a step with the given result. -/
def proceeds : Except Error Outcome → Bool
  | .ok outcome => outcome.proceeds
  | .error _ => false

/-- The last step is not one after which a run ends. -/
def goesOn (r : Run) : Bool :=
  r.last.all proceeds

/-- The error that ended a run. -/
def error? (r : Run) : Option Error :=
  match r.last with
  | some (.error e) => some e
  | _ => none

/-- One step more. -/
def step (r : Run) : Run :=
  let reply := r.machine.step r.entropy.next
  { machine := reply.state
    entropy := r.entropy.after reply.result
    steps := r.steps + 1
    last := some reply.result
    log := r.log ++ reply.log }

/-- Up to `limit` steps more. -/
def advance : (limit : Nat) → Run → Run
  | 0, r => r
  | limit + 1, r => if r.goesOn then advance limit r.step else r

@[simp] theorem advance_zero (r : Run) : r.advance 0 = r := rfl

theorem advance_succ (limit : Nat) (r : Run) :
    r.advance (limit + 1) = if r.goesOn then r.step.advance limit else r := rfl

end Run

/-- Takes up to `limit` steps. -/
def Machine.run (m : Machine) (entropy : Entropy) (limit : Nat) : Run :=
  (Run.start m entropy).advance limit

end Chip8
