import Chip8.Terminal.Session
import Chip8.Terminal.Title

/-!
# Picture

What the terminal shows of a session: three boxes, one below the other.  The first holds the
screen of the machine under the name of the program, centred if the terminal is wider than it
needs; the second a line about the state of the machine; the third the layout of the keys.
Whatever does not fit into a box is cut off.

## Main definitions

* `Picture` — the rows of characters, and the colours of the three boxes
* `Box.rows` — a framed block of text with a title
* `Session.screenLine`, `Session.statusLine`, `Keyboard.help` — the contents of the boxes
* `Session.draw` — the picture of a session
-/

namespace Chip8

/-- The colours in use. -/
inductive Colour where
  | white
  | yellow
  | green
  | magenta
  | red
deriving DecidableEq, Repr

/-- What the terminal shows.  To the right of the end of a row there are blanks. -/
structure Picture where
  rows : List (List Char)
  screenColour : Colour
  statusColour : Colour
  keypadColour : Colour

namespace Box

/-- A text cut or filled with blanks to a number of columns. -/
def fit (columns : Nat) (text : List Char) : List Char :=
  text.take columns ++ List.replicate (columns - text.length) ' '

/-- A text with as many blanks before it as centre it in a number of columns. -/
def centred (columns : Nat) (text : List Char) : List Char :=
  List.replicate (columns / 2 - text.length / 2) ' ' ++ text

/-- The upper border, with the title behind its corner. -/
def top (inner : Nat) (title : List Char) : List Char :=
  '┌' :: Title.shown (Title.write title (List.replicate inner ['─'])) ++ ['┐']

/-- A line of text between the borders. -/
def line (inner : Nat) (text : List Char) : List Char :=
  '│' :: fit inner text ++ ['│']

/-- The lower border. -/
def bottom (inner : Nat) : List Char :=
  '└' :: List.replicate inner '─' ++ ['┘']

/-- A box of the given width over all, around lines of text. -/
def rows (width : Nat) (title : List Char) (text : List (List Char)) : List (List Char) :=
  top (width - 2) title :: text.map (line (width - 2)) ++ [bottom (width - 2)]

end Box

/-- The layout of the keys, as it is shown. -/
def Keyboard.help : List (List Char) :=
  ["Key Mapping:".toList,
   "1 2 3 4    →    1 2 3 C".toList,
   "Q W E R    →    4 5 6 D".toList,
   "A S D F    →    7 8 9 E".toList,
   "Z X C V    →    A 0 B F".toList]

namespace Session

/-- A lit pixel is a full block, an unlit one a blank. -/
def pixelChar (lit : Bool) : Char :=
  if lit then '█' else ' '

/-- A row of the screen. -/
def screenLine (s : Session) (y : Nat) : List Char :=
  (List.range Screen.width).map fun x => pixelChar (s.machine.screen.pixel x y)

/-- All rows of the screen. -/
def screenLines (s : Session) : List (List Char) :=
  (List.range Screen.height).map s.screenLine

/-- Whether the machine is running, in words.  A fault comes before everything else. -/
def condition (s : Session) : String :=
  match s.fault with
  | some e => "FAULT: " ++ e.message
  | none =>
    match s.machine.status with
    | .ready => "running"
    | .awaitingInput => "waiting for key"
    | .halted => "halted"

/-- The line about the state of the machine. -/
def statusLine (s : Session) : List Char :=
  "PC 0x".toList ++ Numeral.hexAtLeast 3 s.machine.pc.toNat ++
  "  I 0x".toList ++ Numeral.hexAtLeast 3 s.machine.index.toNat ++
  "  DT ".toList ++ Numeral.alignedDecimal 3 s.machine.delayTimer.toNat ++
  "  ST ".toList ++ Numeral.alignedDecimal 3 s.machine.soundTimer.toNat ++
  "  ".toList ++ s.machine.mode.name.toList ++ "  ".toList ++ s.condition.toList

/-- The colour of the line about the state of the machine. -/
def statusColour (s : Session) : Colour :=
  if s.fault.isSome then .red else if s.machine.sounding then .magenta else .green

/-- The columns that the box around the screen needs. -/
def screenBoxWidth : Nat :=
  Screen.width + 2

/-- The columns to the left of the box around the screen. -/
def screenLeft (width : Nat) : Nat :=
  (width - screenBoxWidth) / 2

/-- The picture of a session on a terminal of the given size. -/
def draw (s : Session) (width height : Nat) (title : String) : Picture :=
  let screenBox := Box.rows (min width screenBoxWidth) title.toList s.screenLines
  let statusBox := Box.rows width "Machine".toList [s.statusLine]
  let keypadBox := Box.rows width "Keypad (Esc quits)".toList
    (Keyboard.help.map (Box.centred (width - 2)))
  let boxes := screenBox.map (List.replicate (screenLeft width) ' ' ++ ·) ++ statusBox ++ keypadBox
  { rows := boxes ++ List.replicate (height - boxes.length) []
    screenColour := .white
    statusColour := s.statusColour
    keypadColour := .yellow }

end Session

end Chip8
