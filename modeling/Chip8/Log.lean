import Chip8.Error
import Chip8.Keypad
import Chip8.Memory.Listing
import Chip8.Mode
import Chip8.Opcode
import Chip8.Registers

/-!
# Log

What the program reports while it runs.  A report is an event with a level; its wording is worked
out only when it is shown, and it is shown only if the log goes down to its level.

## Main definitions

* `Level` — from errors, which are always shown, down to the trace of every instruction
* `Event` — what can be reported
* `Event.level`, `Event.origin`, `Event.message` — how important it is, who says it, and how
* `Event.lines` — the lines of the log it makes
-/

namespace Chip8

/-- How much a log shows, from the least to the most. -/
inductive Level where
  | error
  | warn
  | info
  | debug
  | trace
deriving DecidableEq, Repr

namespace Level

/-- The place of a level, one for the least verbose. -/
def rank : Level → Nat
  | .error => 1
  | .warn => 2
  | .info => 3
  | .debug => 4
  | .trace => 5

/-- The name of a level. -/
def name : Level → String
  | .error => "ERROR"
  | .warn => "WARN"
  | .info => "INFO"
  | .debug => "DEBUG"
  | .trace => "TRACE"

/-- All levels, the least verbose first. -/
def all : List Level :=
  [.error, .warn, .info, .debug, .trace]

/-- A log of the level `limit` shows reports of the level `l`. -/
def Shows (limit l : Level) : Prop :=
  l.rank ≤ limit.rank

instance (limit l : Level) : Decidable (limit.Shows l) :=
  inferInstanceAs (Decidable (l.rank ≤ limit.rank))

end Level

/-- What is reported. -/
inductive Event where
  /-- The machine went back to its power-on state, with or without its memory. -/
  | machineReset (clearMemory : Bool)
  /-- Only `loaded` of the `size` bytes of a program image fit. -/
  | imageTruncated (size loaded : Nat)
  /-- A program image is in place. -/
  | programLoaded (bytes : Nat)
  /-- The memory as it is after a program image was loaded. -/
  | memoryAfterLoad (memory : Memory)
  /-- The word at `pc` is zero, so there is nothing left to execute. -/
  | zeroWordFetched (pc : UInt16)
  /-- The word before `pc` belongs to no family. -/
  | unknownWord (word : Word) (pc : UInt16)
  /-- An instruction is about to be executed. -/
  | executing (word : Word) (opcode : Opcode)
  /-- An instruction asked for a routine of the host machine. -/
  | routineIgnored (address : UInt16)
  /-- A key went down that an instruction was waiting for. -/
  | keyWaitSatisfied (key : Key) (target : Register)
  /-- An instruction failed, with the program counter on it. -/
  | executionStopped (error : Error) (pc : UInt16)
  /-- A program is about to run at the terminal. -/
  | starting (rom : String) (loaded : Nat) (mode : Mode)
  /-- The program begins to listen to a source of terminal events.  It is the poller of the terminal
  library that reports this and words it; the log shows the reports of libraries too. -/
  | sourceRegistered (token : Nat)
  /-- The terminal does not tell when a key goes up. -/
  | keyReleasesMissing

namespace Event

/-- How important a report is. -/
def level : Event → Level
  | .executionStopped .. => .error
  | .imageTruncated .. | .unknownWord .. | .keyReleasesMissing => .warn
  | .machineReset _ | .programLoaded _ | .starting .. => .info
  | .zeroWordFetched _ | .routineIgnored _ | .keyWaitSatisfied .. => .debug
  | .memoryAfterLoad _ | .executing .. | .sourceRegistered _ => .trace

/-- The part of the program that makes a report, as the log file names it. -/
def origin : Event → String
  | .executionStopped .. | .starting .. | .keyReleasesMissing => "chip8::emulator"
  | .routineIgnored _ => "chip8_engine::state::execute"
  | .sourceRegistered _ => "mio::poll"
  | _ => "chip8_engine::state"

/-- The wording of a report. -/
def message : Event → String
  | .machineReset clearMemory => "machine reset clear_memory=" ++ toString clearMemory
  | .imageTruncated size loaded =>
    "program image truncated size=" ++ toString size ++ " loaded=" ++ toString loaded
  | .programLoaded bytes => "program loaded bytes=" ++ toString bytes
  | .memoryAfterLoad memory => "memory after load:\n" ++ String.ofList memory.listing
  | .zeroWordFetched pc => "zero instruction fetched, halting pc=" ++ toString pc.toNat
  | .unknownWord word pc =>
    "unknown opcode, skipping instruction=" ++ word.text ++ " pc=" ++ toString pc.toNat
  | .executing word opcode =>
    "execute instruction=" ++ word.text ++ " opcode=" ++ opcode.name
  | .routineIgnored address =>
    "machine code routine ignored address=" ++ toString address.toNat
  | .keyWaitSatisfied key target =>
    "key wait satisfied key=" ++ Key.name key ++ " target=" ++ Register.name target
  | .executionStopped error pc =>
    "execution stopped error=" ++ error.message ++ " pc=" ++ toString pc.toNat
  | .starting rom loaded mode =>
    "starting rom=" ++ rom ++ " loaded=" ++ toString loaded ++ " mode=" ++ mode.name
  | .sourceRegistered token =>
    "registering event source with poller: token=Token(" ++ toString token ++
    "), interests=READABLE"
  | .keyReleasesMissing =>
    "terminal does not report key releases, emulating held keys"

/-- The lines of a report behind the name of its level.  Line feeds in the wording start new
lines. -/
def lines (e : Event) : List String :=
  (e.level.name ++ " " ++ e.message).splitOn "\n"

/-- The lines of a report in a log file, which also names the origin. -/
def fileLines (e : Event) : List String :=
  (e.level.name ++ " " ++ e.origin ++ ": " ++ e.message).splitOn "\n"

/-- The reports that a log of the level `limit` shows. -/
def shown (limit : Level) (events : List Event) : List Event :=
  events.filter fun e => limit.Shows e.level

end Event

/-- What an operation on a state gives back: its result, the state afterwards, and what it
reported. -/
structure Reply (σ α : Type) where
  result : α
  state : σ
  log : List Event

end Chip8
