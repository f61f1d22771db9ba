import Chip8.Text.Width.Single

/-!
# Ligatures

Letters of some scripts join into one sign, which is narrower than the letters would be apart.
A text is measured from its end, so a ligature is found from its last letter: the letter makes it
possible, and what comes before goes on with it, completes it or ends it.

## Main definitions

* `Width.Ligature` — the endings of ligatures, from the last letter on
* `Width.Ligature.ending?` — the ending that a letter is by itself
* `Width.Ligature.extend?` — what the character before an ending adds to it
-/

namespace Chip8.Width

/-- The ending of a possible ligature. -/
inductive Ligature where
  /-- An Arabic alef, which joins a lam. -/
  | alef
  /-- A Hebrew lamed, which a joiner binds to an alef. -/
  | lamed
  | joinedLamed
  /-- A Khmer letter, which a coeng sign puts below the letter before it. -/
  | coengLetter
  /-- A Buginese ya, which a joiner binds to a vowel sign and its letter. -/
  | ya
  | joinedYa
  | signedYa
  /-- A Tifinagh letter, which a joiner or a sign of its own binds to the letter before it. -/
  | tifinagh
  | joinedTifinagh
  | signedTifinagh
  /-- The second mark of a Lisu tone. -/
  | lisuTone
  /-- An Old Turkic letter, which a joiner binds to one before it. -/
  | orkhon
  | joinedOrkhon
deriving DecidableEq, Repr

namespace Ligature

/-- The ending that a letter is by itself. -/
def ending? (c : Char) : Option Ligature :=
  if c ∈ CharSet.alefs then some .alef
  else if c = '\u05DC' then some .lamed
  else if c ∈ CharSet.coengLetters then some .coengLetter
  else if c = '\u1A10' then some .ya
  else if c ∈ CharSet.tifinaghLetters then some .tifinagh
  else if c ∈ CharSet.lisuClosers then some .lisuTone
  else if c.toNat = 0x10C03 then some .orkhon
  else none

/-- An ending with a joiner before it.  An alef joins its lam only directly. -/
def afterJoiner : Ligature → Option Ligature
  | .alef => none
  | .lamed => some .joinedLamed
  | .ya => some .joinedYa
  | .tifinagh => some .joinedTifinagh
  | .orkhon => some .joinedOrkhon
  | l => some l

/-- The columns that a letter adds before an ending it belongs to, and the ending that is then
there: none if the ligature is complete. -/
def letter? : Ligature → Char → Option (Int × Option Ligature)
  | .alef, c =>
    if c ∈ CharSet.lams then some (0, none)
    else if TakesNoColumn c ∧ c ∉ CharSet.separating then some (0, some .alef)
    else none
  | .joinedLamed, c => if c = '\u05D0' then some (0, none) else none
  | .coengLetter, c => if c = '\u17D2' then some (-1, none) else none
  | .joinedYa, c => if c = '\u1A17' then some (0, some .signedYa) else none
  | .signedYa, c => if c = '\u1A15' then some (0, none) else none
  | .tifinagh, c => if c = '\u2D7F' then some (1, some .signedTifinagh) else none
  | .joinedTifinagh, c =>
    if c = '\u2D7F' then some (1, some .signedTifinagh)
    else if c ∈ CharSet.tifinaghLetters then some (0, none)
    else none
  | .signedTifinagh, c => if c ∈ CharSet.tifinaghLetters then some (-1, none) else none
  | .lisuTone, c => if c ∈ CharSet.lisuTones then some (0, none) else none
  | .joinedOrkhon, c => if c.toNat = 0x10C32 then some (0, none) else none
  | .lamed, _ | .ya, _ | .orkhon, _ => none

/-- The columns that a character adds before an ending it belongs to, and the ending that is then
there.  Joiners and selectors between the letters do not end a ligature. -/
def extend? (l : Ligature) (c : Char) : Option (Int × Option Ligature) :=
  if c = joiner then some (0, l.afterJoiner)
  else if c ∈ CharSet.ligatureFillers then some (0, some l)
  else l.letter? c

end Ligature

end Chip8.Width
