import Chip8.Log
import Chip8.Mode
import Chip8.Text.Numeral

/-!
# Command line

The program is called with the path of a program image and with options, in any order.  An
option has two minus signs and takes a value, either as the next word or behind an equals sign.
A word of two minus signs alone says that no more options follow.

Words are read from left to right, and the first thing that is wrong decides.  A value given as
a word of its own is looked at when the word behind it has been understood, so a word that
cannot be understood comes first.

## Main definitions

* `Options` — what a command line asks for
* `CommandLine.Stop` — why no program is started: a request for help, or something wrong
* `CommandLine.Argument.ofString` — what a single word is
* `CommandLine.parse` — reading a command line
-/

namespace Chip8

/-- What a command line asks for. -/
structure Options where
  /-- The path of the program image. -/
  rom : String
  /-- Instructions per second. -/
  ips : Nat
  /-- Frames per second. -/
  frameRate : Nat
  mode : Mode
  /-- The path of the log, if one is to be written. -/
  logFile : Option String
  /-- How much the log shows. -/
  logLevel : Level
deriving DecidableEq, Repr

/-- The instructions executed in a frame: those of a second shared out evenly, but at least
one. -/
def Options.frameBudget (o : Options) : Nat :=
  max 1 (o.ips / o.frameRate)

namespace CommandLine

/-- Why no program is started. -/
inductive Stop where
  | help
  | version
  /-- A word that is no option, or one path too many. -/
  | unknownArgument
  /-- A value is missing, or it is none of the values that are possible. -/
  | invalidValue
  /-- A value that does not pass the check of its option. -/
  | rejectedValue
  /-- A value for something that takes none. -/
  | surplusValue
  /-- The same option twice. -/
  | repeatedOption
  /-- No path of a program image. -/
  | missingRom
deriving DecidableEq, Repr

/-- The options. -/
inductive Setting where
  | ips
  | frameRate
  | mode
  | logFile
  | logLevel
deriving DecidableEq, Repr

/-- The options by their names. -/
def Setting.names : List (String × Setting) :=
  [("ips", .ips), ("frame-rate", .frameRate), ("mode", .mode), ("log-file", .logFile),
   ("log-level", .logLevel)]

/-- What a single word of the command line is. -/
inductive Argument where
  /-- Two minus signs. -/
  | separator
  /-- The name of an option, perhaps with a value behind an equals sign. -/
  | setting (s : Setting) (attached : Option String)
  | help
  | version
  /-- A request for help or for the version with a value behind an equals sign. -/
  | helpWithValue
  /-- A word that starts like an option but is none. -/
  | unknown
  /-- Any other word. -/
  | value (text : String)
deriving DecidableEq, Repr

namespace Argument

/-- A word with two minus signs, which are left out here. -/
def ofLong (text : List Char) : Argument :=
  let name := String.ofList (text.takeWhile (· ≠ '='))
  let attached : Option String :=
    match text.dropWhile (· ≠ '=') with
    | [] => none
    | _ :: rest => some (String.ofList rest)
  match Setting.names.lookup name with
  | some s => .setting s attached
  | none =>
    if name = "help" then if attached.isSome then .helpWithValue else .help
    else if name = "version" then if attached.isSome then .helpWithValue else .version
    else .unknown

/-- Tells what a word is.  A single minus sign is a value like any other. -/
def ofChars : List Char → Argument
  | ['-', '-'] => .separator
  | '-' :: '-' :: rest => ofLong rest
  | ['-'] => .value "-"
  | '-' :: 'h' :: _ => .help
  | '-' :: 'V' :: _ => .version
  | '-' :: _ => .unknown
  | text => .value (String.ofList text)

/-- Tells what a word is. -/
def ofString (text : String) : Argument :=
  ofChars text.toList

end Argument

/-- The values that have been found good. -/
structure Given where
  rom : Option String
  ips : Option Nat
  frameRate : Option Nat
  mode : Option Mode
  logFile : Option String
  logLevel : Option Level
deriving DecidableEq, Repr

/-- What has been read but not looked at yet. -/
inductive Pending where
  | nothing
  /-- An option, and its value if it has come. -/
  | setting (s : Setting) (value : Option String)
  | rom (path : String)
deriving DecidableEq, Repr

/-- How far the command line has been read. -/
structure Progress where
  given : Given
  pending : Pending
deriving DecidableEq, Repr

/-- Before the first word. -/
def Progress.start : Progress :=
  ⟨⟨none, none, none, none, none, none⟩, .nothing⟩

/-- A rate: a whole number from one up to what fits in 64 bits. -/
def rate (text : String) : Except Stop Nat :=
  match Numeral.decimal? text.toList with
  | some n => if 1 ≤ n ∧ n < UInt64.size then .ok n else .error .rejectedValue
  | none => .error .rejectedValue

/-- A mode by its name on the command line. -/
def modeNamed (text : String) : Except Stop Mode :=
  if text = "chip8" then .ok .chip8
  else if text = "super-chip" then .ok .superChip
  else .error .invalidValue

/-- A level by its name in either case, or by its number. -/
def levelNamed (text : String) : Except Stop Level :=
  let upper := text.toList.map Char.toUpper
  let named := Level.all.find? fun l =>
    decide (l.name.toList = upper) || decide (Numeral.decimal? text.toList = some l.rank)
  match named with
  | some l => .ok l
  | none => .error .rejectedValue

/-- A path: any text but the empty one. -/
def path (text : String) : Except Stop String :=
  if text = "" then .error .invalidValue else .ok text

/-- Takes the value of an option that must not have one yet. -/
def once {α : Type} (before : Option α) (value : Except Stop α) : Except Stop α :=
  match before with
  | some _ => .error .repeatedOption
  | none => value

/-- Looks at the value of an option. -/
def Given.accept (g : Given) (s : Setting) (value : String) : Except Stop Given :=
  match s with
  | .ips => (once g.ips (rate value)).map fun n => { g with ips := some n }
  | .frameRate => (once g.frameRate (rate value)).map fun n => { g with frameRate := some n }
  | .mode => (once g.mode (modeNamed value)).map fun m => { g with mode := some m }
  | .logFile => (once g.logFile (path value)).map fun p => { g with logFile := some p }
  | .logLevel => (once g.logLevel (levelNamed value)).map fun l => { g with logLevel := some l }

/-- Looks at what has been read but not looked at yet. -/
def Progress.settle (p : Progress) : Except Stop Given :=
  match p.pending with
  | .nothing => .ok p.given
  | .setting _ none => .error .invalidValue
  | .setting s (some value) => p.given.accept s value
  | .rom text => (path text).map fun r => { p.given with rom := some r }

/-- A path of a program image has been read. -/
def Progress.hasRom (p : Progress) : Bool :=
  match p.pending with
  | .rom _ => true
  | _ => p.given.rom.isSome

/-- Reads a word that is the path of the program image. -/
def Progress.readRom (p : Progress) (text : String) : Except Stop Progress :=
  if p.hasRom then .error .unknownArgument
  else p.settle.map fun g => ⟨g, .rom text⟩

/-- Reads a word that may be an option. -/
def Progress.readArgument (p : Progress) (w : Argument) : Except Stop Progress :=
  match w with
  | .separator => .ok p
  | .unknown => .error .unknownArgument
  | .helpWithValue => .error .surplusValue
  | .help => p.settle.bind fun _ => .error .help
  | .version => p.settle.bind fun _ => .error .version
  | .setting s none => p.settle.map fun g => ⟨g, .setting s none⟩
  | .setting s (some value) =>
    (p.settle.bind fun g => g.accept s value).map fun g => ⟨g, .nothing⟩
  | .value text =>
    match p.pending with
    | .setting s none => .ok { p with pending := .setting s (some text) }
    | _ => p.readRom text

/-- Reads the rest of a command line; `optionsEnded` says that a separator has been read. -/
def Progress.readAll (p : Progress) (optionsEnded : Bool) : List String → Except Stop Given
  | [] => p.settle
  | text :: rest =>
    if optionsEnded then (p.readRom text).bind fun q => q.readAll true rest
    else
      let w := Argument.ofString text
      (p.readArgument w).bind fun q => q.readAll (w = .separator) rest

/-- The options of a complete command line, with the usual values for those that are missing. -/
def Given.options (g : Given) : Except Stop Options :=
  match g.rom with
  | none => .error .missingRom
  | some rom =>
    .ok
      { rom := rom
        ips := g.ips.getD 700
        frameRate := g.frameRate.getD 60
        mode := g.mode.getD .superChip
        logFile := g.logFile
        logLevel := g.logLevel.getD .info }

/-- Reads a command line, without the name of the program. -/
def parse (words : List String) : Except Stop Options :=
  (Progress.start.readAll false words).bind Given.options

end CommandLine

end Chip8
