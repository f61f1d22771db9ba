import Chip8.Text.Cluster
import Chip8.Text.Width

/-!
# Titles

The upper border of a box carries its title.  The border is a row of cells, each of one column;
the title is written over it from the left, one cluster after the other, until the next one does
not fit.  A cluster of several columns clears the cells it covers, and one of no column joins the
cell before it.  Line feeds do not show: the lines of a title stand side by side.

The room for a title is its width as a text.  Its clusters may take more than that if a ligature
goes over their boundaries, and then the last ones are missing.

## Main definitions

* `Title.lines` — the lines of a title
* `Title.Row` — a row of cells, and where the next cluster goes
* `Title.write` — writes a title into a row
* `Title.shown` — the characters of a row as the terminal shows them
-/

namespace Chip8.Title

/-- The lines of a text.  A carriage return before a line feed belongs to it. -/
def lines : List Char → List (List Char)
  | [] => []
  | '\n' :: rest => [] :: lines rest
  | '\r' :: '\n' :: rest => [] :: lines rest
  | c :: rest =>
    match lines rest with
    | [] => [[c]]
    | line :: others => (c :: line) :: others

/-- What a cell of the terminal holds: a cluster, or several of which only one takes columns. -/
abbrev Cell := List Char

/-- A cell that holds nothing. -/
def Cell.blank : Cell := [' ']

/-- The cells of a row, and the column at which the next cluster goes. -/
structure Row where
  cells : List Cell
  column : Nat

/-- Clears the cells behind the first one of a cluster. -/
def clear (cells : List Cell) (first count : Nat) : List Cell :=
  (List.range count).foldl (fun cells i => cells.set (first + i) .blank) cells

/-- Writes a cluster of some columns.  `start` is the column at which its line starts, and
`isFirst` says that it is the first of its line.  A cluster at the start that is not the first
joins those before it, which take no column. -/
def Row.put (r : Row) (start columns : Nat) (isFirst : Bool) (cluster : Cell) : Row :=
  let cells :=
    if isFirst then r.cells.set r.column cluster
    else if r.column = start then r.cells.modify r.column (· ++ cluster)
    else if columns = 0 then r.cells.modify (r.column - 1) (· ++ cluster)
    else r.cells.set r.column cluster
  { cells := clear cells (r.column + 1) (columns - 1), column := r.column + columns }

/-- Writes the clusters of a line that starts at `start`, up to the first that goes beyond
`stop`. -/
def writeClusters (start stop : Nat) (isFirst : Bool) (r : Row) : List Cell → Row
  | [] => r
  | cluster :: rest =>
    let columns := Width.ofText cluster
    if stop < r.column + columns then r
    else writeClusters start stop false (r.put start columns isFirst cluster) rest

/-- Writes lines side by side, the first one at `start`, while there is room before `stop`. -/
def writeLines (start stop : Nat) (cells : List Cell) : List (List Char) → List Cell
  | [] => cells
  | line :: rest =>
    if stop ≤ start then cells
    else
      let written := writeClusters start stop true ⟨cells, start⟩ (Cluster.ofChars line)
      writeLines (start + Width.ofText line) stop written.cells rest

/-- Widths of titles are counted in sixteen bits. -/
abbrev widthLimit : Nat := 65536

/-- Writes a title over the cells of a row. -/
def write (title : List Char) (cells : List Cell) : List Cell :=
  let width := (lines title).foldl (fun before line => before + Width.ofText line) 0
  writeLines 0 (min (width % widthLimit) cells.length) cells (lines title)

/-- Whether a cell covers the one behind it. -/
def isWide (cell : Cell) : Bool :=
  2 ≤ Width.ofText cell

/-- The characters of a row of cells.  A cell behind a wide one is not shown. -/
def shown (cells : List Cell) : List Char :=
  let covered := false :: cells.map isWide
  (cells.zipWith (fun cell hidden => if hidden then Cell.blank else cell) covered).flatten

end Chip8.Title
