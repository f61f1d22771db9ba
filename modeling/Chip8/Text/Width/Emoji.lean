import Chip8.Text.Width.Single

/-!
# Sequences of emoji

Several characters may be one emoji of two columns: a picture with a tone of skin, two flag
letters, a flag with tags, or such emoji bound by joiners.  A text is measured from its end, so a
sequence is found from its last character: each character before it belongs to it or not.

## Main definitions

* `Width.Emoji` — the endings of sequences, from the last emoji on
* `Width.Emoji.ending?` — the ending that a character is by itself
* `Width.Emoji.extend?` — what the character before an ending adds to it
-/

namespace Chip8.Width

/-- The ending of a sequence of emoji. -/
inductive Emoji where
  /-- An emoji of two columns, whatever stands before it. -/
  | picture
  /-- A tone of skin, for the emoji before it. -/
  | modifier
  /-- A flag letter. -/
  | flagLetter
  /-- Several flag letters. -/
  | flagLetters
  /-- An emoji that the joiner before it binds. -/
  | bound
  /-- The sign of a key cap before such a joiner. -/
  | keycap
  /-- A flag letter before such a joiner. -/
  | boundLetter
  /-- An even number of flag letters before such a joiner. -/
  | boundEven
  /-- An odd number of flag letters before such a joiner, but not one. -/
  | boundOdd
  /-- The end of a flag's tags before such a joiner, and some tag letters before that. -/
  | tagLetters (count : Nat)
  /-- Such an end of tags with some tag digits before it. -/
  | tagDigits (count : Nat)
deriving DecidableEq, Repr

namespace Emoji

/-- The fewest tag letters of a flag. -/
abbrev fewestTagLetters : Nat := 3

/-- The most tag letters of a flag. -/
abbrev mostTagLetters : Nat := 6

/-- The most tag letters of a flag that has tag digits before them. -/
abbrev mostLettersBehindDigits : Nat := 4

/-- The tag digits of a flag that has any. -/
abbrev tagDigitCount : Nat := 3

/-- Whether a character is a letter among the tags. -/
def isTagLetter (c : Char) : Bool :=
  0xE0061 ≤ c.toNat && c.toNat ≤ 0xE007A

/-- Whether a character is a digit among the tags. -/
def isTagDigit (c : Char) : Bool :=
  0xE0030 ≤ c.toNat && c.toNat ≤ 0xE0039

/-- Whether a character ends the tags of a flag. -/
def isTagEnd (c : Char) : Bool :=
  c.toNat = 0xE007F

/-- Whether a character is the flag that tags belong to. -/
def isBlackFlag (c : Char) : Bool :=
  c.toNat = 0x1F3F4

/-- The ending that a character is by itself, and its columns. -/
def ending? (c : Char) : Option (Int × Emoji) :=
  if c ∈ CharSet.regional then some (1, .flagLetter)
  else if c ∈ CharSet.modifiers then some (2, .modifier)
  else if c ∈ CharSet.emoji then some (2, .picture)
  else none

/-- The columns that a character adds before an ending it belongs to, and the ending that is then
there. -/
def extend? : Emoji → Char → Option (Int × Emoji)
  | .picture, c => if c = joiner then some (0, .bound) else none
  | .modifier, c =>
    if c ∈ CharSet.modifiable then some (0, .picture)
    else if c = joiner then some (0, .bound)
    else none
  | .flagLetter, c => if c ∈ CharSet.regional then some (1, .flagLetters) else none
  | .flagLetters, c =>
    if c ∈ CharSet.regional then some (1, .flagLetters)
    else if c = joiner then some (0, .bound)
    else none
  | .bound, c =>
    if c = '\u20E3' then some (0, .keycap)
    else if c ∈ CharSet.regional then some (1, .boundLetter)
    else if c ∈ CharSet.modifiers then some (0, .modifier)
    else if isTagEnd c then some (0, .tagLetters 0)
    else if c ∈ CharSet.emoji then some (0, .picture)
    else none
  | .keycap, _ => none
  | .boundLetter, c => if c ∈ CharSet.regional then some (-1, .boundEven) else none
  | .boundEven, c =>
    if c ∈ CharSet.regional then some (3, .boundOdd)
    else if c = joiner then some (0, .bound)
    else none
  | .boundOdd, c =>
    if c ∈ CharSet.regional then some (-1, .boundEven)
    else if c = joiner then some (0, .bound)
    else none
  | .tagLetters count, c =>
    if isTagLetter c ∧ count < mostTagLetters then some (0, .tagLetters (count + 1))
    else if isTagDigit c ∧ count ≤ mostLettersBehindDigits then some (0, .tagDigits 1)
    else if isBlackFlag c ∧ fewestTagLetters ≤ count then some (0, .picture)
    else none
  | .tagDigits count, c =>
    if isTagDigit c ∧ count < tagDigitCount then some (0, .tagDigits (count + 1))
    else if isBlackFlag c ∧ count = tagDigitCount then some (0, .picture)
    else none

end Emoji

end Chip8.Width
