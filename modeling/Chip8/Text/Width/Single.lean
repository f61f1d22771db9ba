import Chip8.Text.CharSet.Clusters
import Chip8.Text.CharSet.Columns

/-!
# The width of a single character

How many columns of a terminal a character takes that stands alone: none for the marks that join
the character before them and for what is never shown, two for the wide characters of East Asian
scripts and for pictographs, one for everything else.  A control character takes one.

## Main definitions

* `Width.TakesNoColumn` — marks, fillers and signs of layout
* `Width.ofChar` — the columns of a character
-/

namespace Chip8.Width

/-- The zero-width joiner. -/
abbrev joiner : Char := '\u200D'

/-- A character of no column: a mark without a body, or a character that is never shown. -/
def TakesNoColumn (c : Char) : Prop :=
  (c ∈ CharSet.extending ∧ c ∉ CharSet.bodied) ∨ c ∈ CharSet.invisible

instance (c : Char) : Decidable (TakesNoColumn c) :=
  inferInstanceAs (Decidable ((_ ∧ _) ∨ _))

/-- The last of the characters that take one column each, whatever stands around them. -/
abbrev lastPlain : Char := '\u00A0'

/-- The columns of a character that stands alone. -/
def ofChar (c : Char) : Nat :=
  if c ≤ lastPlain then 1
  else if TakesNoColumn c then 0
  else if c = '\u17D8' then 3
  else if c ∈ CharSet.wide then 2
  else 1

end Chip8.Width
