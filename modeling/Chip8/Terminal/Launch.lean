import Chip8.CommandLine
import Chip8.Terminal.Session

/-!
# Launch

From a command line to the first frame: the log file is created, the program image is read, and
the session is set up as the options say.  Either file may fail; the program then ends with a
report of what it could not do, and why.

## Main definitions

* `Session.start` — loading the program and setting up the session
* `Launch.Failure`, `Launch.Failure.report` — what can fail, and the report
* `Launch.session` — all of it
* `Launch.title` — the name of the program
* `Launch.exitStatus` — the exit status for a command line that starts no program
-/

namespace Chip8

/-- The sources of terminal events: typed keys, and changes of the size.  They are numbered by the
terminal library, which hands them to its poller in this order; so the numbers, like the reports of
the poller, are not the choice of the program, but they stand in its log. -/
abbrev eventSources : List Nat := [0, 1]

/-- Loads the program image, whose contents are `none` if it cannot be read, and sets the session
up for it.  If it cannot be read nothing changes.  To find out whether key releases are reported
the program begins to listen to the terminal. -/
def Session.start (s : Session) (o : Options) (contents : Option (List UInt8))
    (reportsReleases : Bool) : Reply Session (Except Error Unit) :=
  let loading := s.machine.loadFile o.rom contents
  match loading.result with
  | .error e => ⟨.error e, s, []⟩
  | .ok loaded =>
    ⟨.ok (),
      { s with machine := loading.state.setMode o.mode, reportsReleases := reportsReleases },
      loading.log ++ [.starting o.rom loaded o.mode] ++ eventSources.map .sourceRegistered ++
        if reportsReleases then [] else [.keyReleasesMissing]⟩

namespace Launch

/-- What can fail before the first frame. -/
inductive Failure where
  /-- The log file cannot be created. -/
  | logFile (path : String)
  /-- The program cannot be loaded. -/
  | rom (path : String) (cause : Error)
deriving DecidableEq, Repr

namespace Failure

/-- What could not be done. -/
def message : Failure → String
  | .logFile path => "could not create log file " ++ path
  | .rom path _ => "could not start " ++ path

/-- The causes that the program itself knows.  A last one comes from the operating system. -/
def causes : Failure → List String
  | .logFile _ => []
  | .rom _ cause => [cause.message]

/-- The report, up to the cause from the operating system.  Causes are numbered if there is more
than one. -/
def report (f : Failure) : List String :=
  ["Error: " ++ f.message, "Caused by:"] ++
    f.causes.mapIdx fun i cause => toString i ++ ": " ++ cause

end Failure

/-- Starts a session as the options say.  `logCreated` tells whether the log file, if there is to
be one, could be created; that is tried first. -/
def session (entropy : Entropy) (o : Options) (logCreated : Bool)
    (contents : Option (List UInt8)) (reportsReleases : Bool) :
    Except Failure (Session × List Event) :=
  match o.logFile, logCreated with
  | some path, false => .error (.logFile path)
  | _, _ =>
    let reply := (Session.new entropy).start o contents reportsReleases
    match reply.result with
    | .error e => .error (.rom o.rom e)
    | .ok _ => .ok (reply.state, reply.log)

/-- The parts of a path between its slashes. -/
def components (path : List Char) : List (List Char) :=
  path.splitBy (fun a b => a ≠ '/' ∧ b ≠ '/') |>.filter fun part => part ≠ ['/']

/-- A file name without its extension: what stands before the last dot, unless that is nothing. -/
def stem (name : List Char) : List Char :=
  let before := ((name.reverse.dropWhile (· ≠ '.')).drop 1).reverse
  if before.isEmpty then name else before

/-- The name of the program at a path: its file name without the extension. -/
def title (path : String) : String :=
  match ((components path.toList).filter (· ≠ ['.'])).getLast? with
  | none | some ['.', '.'] => "Unknown ROM"
  | some name => String.ofList (stem name)

/-- The exit status for a command line that starts no program: zero if it asked for help. -/
def exitStatus : CommandLine.Stop → Nat
  | .help | .version => 0
  | _ => 2

end Launch

end Chip8
