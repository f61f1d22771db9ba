import Chip8.Terminal.Launch
import Chip8.Terminal.Picture

/-!
# The program

`chip8 ROM [options]` runs a program image in the terminal.  This module only talks to the
terminal and to files: what is read, shown and reported is worked out elsewhere.

Keys are read as the terminal sends them, so it should pass them on at once and without showing
them; Escape quits.
-/

namespace Chip8.Program

/-- The escape sequence of a colour. -/
def colourCode : Colour → String
  | .white => "\x1b[37m"
  | .yellow => "\x1b[33m"
  | .green => "\x1b[32m"
  | .magenta => "\x1b[35m"
  | .red => "\x1b[31m"

/-- Clears the terminal and puts the cursor into the corner. -/
def clearScreen : String :=
  "\x1b[2J\x1b[H"

/-- The rows of a picture, drawn from the corner of the terminal in the colours of the boxes. -/
def paint (p : Picture) : String :=
  let colour (row : Nat) : Colour :=
    if row < 34 then p.screenColour else if row < 37 then p.statusColour else p.keypadColour
  let row (i : Nat) (text : List Char) : String :=
    colourCode (colour i) ++ String.ofList text ++ "\x1b[K"
  "\x1b[H" ++ "\r\n".intercalate (p.rows.mapIdx row) ++ "\x1b[0m"

/-- A number from the environment of the program. -/
def environmentNumber (name : String) (otherwise : Nat) : IO Nat := do
  match ← IO.getEnv name with
  | some text => return (Numeral.decimal? text.toList).getD otherwise
  | none => return otherwise

/-- A stream of bytes from a seed. -/
def entropyFrom (seed : Nat) : Entropy where
  byte i :=
    let a : UInt64 := UInt64.ofNat (seed + i) * 0x9E3779B97F4A7C15
    let b := (a ^^^ (a >>> 30)) * 0xBF58476D1CE4E5B9
    let c := (b ^^^ (b >>> 27)) * 0x94D049BB133111EB
    (c ^^^ (c >>> 31)).toUInt8
  used := 0

/-- Where reports go. -/
structure Journal where
  handle : Option IO.FS.Handle
  level : Level

/-- Writes reports. -/
def Journal.write (j : Journal) (events : List Event) : IO Unit := do
  if let some handle := j.handle then
    for line in (Event.shown j.level events).flatMap Event.fileLines do
      handle.putStrLn line
    handle.flush

/-- Creates the log file, if there is to be one. -/
def openJournal (o : Options) : IO (Journal × Bool) := do
  match o.logFile with
  | none => return (⟨none, o.logLevel⟩, true)
  | some path =>
    try
      let handle ← IO.FS.Handle.mk path .write
      return (⟨some handle, o.logLevel⟩, true)
    catch _ => return (⟨none, o.logLevel⟩, false)

/-- The bytes of a file, if it can be read. -/
def contents (path : String) : IO (Option (List UInt8)) := do
  try
    return some (← IO.FS.readBinFile path).toList
  catch _ => return none

/-- Collects the keys that are typed. -/
partial def listen (input : IO.FS.Stream) (typed : IO.Ref (List KeyEvent)) : IO Unit := do
  let bytes ← input.read 1
  if bytes.isEmpty then return
  let event : KeyEvent := ⟨KeyCode.ofTyped (Char.ofNat bytes[0]!.toNat), .press⟩
  typed.modify (· ++ [event])
  listen input typed

/-- Shows one frame after the other until the user quits. -/
partial def play (o : Options) (journal : Journal) (typed : IO.Ref (List KeyEvent))
    (draw : Session → Picture) (s : Session) : IO Unit := do
  let begun ← IO.monoMsNow
  let keys ← typed.modifyGet fun keys => (keys, [])
  let reply := s.playFrame keys o.frameBudget
  journal.write reply.log
  if reply.result then
    let output ← IO.getStdout
    output.putStr (paint (draw reply.state))
    output.flush
    let spent := (← IO.monoMsNow) - begun
    IO.sleep (UInt32.ofNat (1000 / o.frameRate - spent))
    play o journal typed draw reply.state

/-- What is printed for a command line that starts no program. -/
def usage : String :=
  "Usage: chip8 [--ips N] [--frame-rate N] [--mode chip8|super-chip] " ++
  "[--log-file PATH] [--log-level LEVEL] ROM"

/-- Runs the program with a command line, and gives back its exit status. -/
def run (arguments : List String) : IO UInt32 := do
  match CommandLine.parse arguments with
  | .error stop =>
    let status := Launch.exitStatus stop
    if status = 0 then IO.println usage else IO.eprintln usage
    return UInt32.ofNat status
  | .ok o =>
    let (journal, logCreated) ← openJournal o
    let entropy := entropyFrom (← IO.rand 0 (1 <<< 62))
    match Launch.session entropy o logCreated (← contents o.rom) false with
    | .error failure =>
      for line in failure.report do
        IO.eprintln line
      return 1
    | .ok (session, log) =>
      journal.write log
      let width ← environmentNumber "COLUMNS" 80
      let height ← environmentNumber "LINES" 44
      let typed ← IO.mkRef ([] : List KeyEvent)
      let _ ← IO.asTask (listen (← IO.getStdin) typed)
      IO.print clearScreen
      play o journal typed (fun s => s.draw width height (Launch.title o.rom)) session
      IO.print clearScreen
      return 0

end Chip8.Program

/-- Runs a program image in the terminal. -/
def main (arguments : List String) : IO UInt32 :=
  Chip8.Program.run arguments
