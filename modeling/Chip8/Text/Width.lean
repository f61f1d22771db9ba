import Chip8.Text.Width.Emoji
import Chip8.Text.Width.Ligature
import Chip8.Text.Width.Single

/-!
# Display width

How many columns of a terminal a line of text takes.  That is not the sum over its characters:
ligatures and sequences of emoji take fewer columns than their characters would alone, and a
selector behind a character chooses between a plain form and an emoji of two columns.

A text is measured from its end.  What has to be remembered of the characters behind a place is
the ending they make there and the selector that comes first among them.

## Main definitions

* `Width.Ending`, `Width.Following` — what stands behind a place
* `Width.before` — the columns a character adds in front of it
* `Width.ofText` — the columns of a text
-/

namespace Chip8.Width

/-- What the characters behind a place begin with, as far as it may go on to the left. -/
inductive Ending where
  | plain
  | ligature (l : Ligature)
  | emoji (e : Emoji)
deriving DecidableEq, Repr

namespace Ending

/-- The ending of a ligature, if it is not complete. -/
def ofLigature? : Option Ligature → Ending
  | some l => .ligature l
  | none => .plain

/-- The columns that a character adds before an ending it belongs to, and the ending that is then
there. -/
def extend? (c : Char) : Ending → Option (Int × Ending)
  | .plain => none
  | .ligature l => (l.extend? c).map fun (columns, next) => (columns, ofLigature? next)
  | .emoji e => (e.extend? c).map fun (columns, next) => (columns, .emoji next)

/-- The columns of a character that belongs to nothing behind it, and the ending it makes. -/
def alone (c : Char) : Int × Ending :=
  match Ligature.ending? c, Emoji.ending? c with
  | some l, _ => (1, .ligature l)
  | none, some (columns, e) => (columns, .emoji e)
  | none, none => (ofChar c, .plain)

/-- What a selector leaves of the ending behind it: a ligature. -/
def behindSelector : Ending → Ending
  | .ligature l => .ligature l
  | _ => .plain

/-- Whether a joiner binds the emoji of an ending to one before it. -/
def isBound : Ending → Bool
  | .emoji .bound | .emoji .keycap => true
  | _ => false

end Ending

/-- The form of a character that a selector behind it asks for. -/
inductive Selector where
  | plainForm
  | emojiForm
deriving DecidableEq, Repr

/-- The form that a character selects. -/
def Selector.ofChar? (c : Char) : Option Selector :=
  if c = '\uFE0E' then some .plainForm else if c = '\uFE0F' then some .emojiForm else none

/-- What stands behind a place. -/
structure Following where
  ending : Ending
  /-- The selector that comes first. -/
  selector : Option Selector
deriving DecidableEq, Repr

namespace Following

/-- Behind the last character there is nothing. -/
def nothing : Following := ⟨.plain, none⟩

/-- What is left if the character before a selector has no other form. -/
def dropSelector (f : Following) : Following :=
  if f.selector.isSome then ⟨f.ending.behindSelector, none⟩ else f

/-- What stands behind a place in front of which there is a selector.  A selector of emoji may
stand between an emoji and the joiner that binds it to the next. -/
def select (f : Following) : Selector → Following
  | .plainForm => ⟨f.ending.behindSelector, some .plainForm⟩
  | .emojiForm =>
    ⟨if f.ending.isBound then f.ending else f.ending.behindSelector, some .emojiForm⟩

end Following

/-- The columns that a character adds in front of what it is neither the selected form nor a
selector of, and what then stands behind the place before it. -/
def beforeEnding (c : Char) (behind : Ending) : Int × Following :=
  let (columns, ending) := (behind.extend? c).getD (Ending.alone c)
  (columns, ⟨ending, none⟩)

/-- The columns that a character adds in front of others, and what then stands behind the place
before it. -/
def before (c : Char) (f : Following) : Int × Following :=
  if f.selector = some .emojiForm ∧ c ∈ CharSet.twofold then
    (if f.ending.isBound then 0 else 2, ⟨.emoji .picture, none⟩)
  else if c ≤ lastPlain then (1, .nothing)
  else
    match Selector.ofChar? c with
    | some selector => (0, f.dropSelector.select selector)
    | none =>
      if f.selector = some .plainForm ∧ c ∈ CharSet.twofold ∧ c ∈ CharSet.emoji ∧
          c ∉ CharSet.enclosed then
        (1, .nothing)
      else beforeEnding c f.dropSelector.ending

/-- The columns of the characters behind a place, and what stands there. -/
def measure : List Char → Int × Following
  | [] => (0, .nothing)
  | c :: rest =>
    let (columns, behind) := measure rest
    let (added, here) := before c behind
    (columns + added, here)

/-- The columns of a text. -/
def ofText (text : List Char) : Nat :=
  (measure text).1.toNat

end Chip8.Width
