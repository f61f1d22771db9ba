/-!
# Compatibility modes

Two lineages of the instruction set disagree about four families: what the shifts read, and
whether a block transfer moves the index.

## Main definitions

* `Mode` — the lineages
-/

namespace Chip8

/-- The lineage the machine follows where the two disagree. -/
inductive Mode where
  /-- The older one: shifts read `VY`, block transfers advance the index. -/
  | chip8
  /-- The newer one: shifts work on `VX` in place, block transfers leave the index alone. -/
  | superChip
deriving DecidableEq, Repr

/-- The name of a mode. -/
def Mode.name : Mode → String
  | .chip8 => "Chip8"
  | .superChip => "SuperChip"

end Chip8
