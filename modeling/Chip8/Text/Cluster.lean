import Chip8.Text.CharSet.Clusters

/-!
# Clusters

A cluster is what a reader takes for one character: a letter with its marks, a Korean syllable, a
conjunct of consonants, a flag, or several pictographs bound by joiners.  The boundaries between
clusters are those of the Unicode standard.

Whether there is one before a character depends on the kind of the character and on what stands
before it: `Cluster.Context` keeps what has to be remembered of that.

## Main definitions

* `Cluster.Kind`, `Cluster.kind` — how a character takes part in clusters
* `Cluster.Context` — what stands before a boundary
* `Cluster.Context.joins` — whether a character joins what stands before it
* `Cluster.ofChars` — the clusters of a text
-/

namespace Chip8.Cluster

/-- How a character takes part in clusters. -/
inductive Kind where
  | carriageReturn
  | lineFeed
  | control
  | extending
  /-- Extends what stands before it, and binds two consonants. -/
  | linker
  /-- Extends what stands before it, and keeps two consonants apart. -/
  | nonJoiner
  /-- Extends what stands before it, and binds two pictographs. -/
  | joiner
  | spacing
  | prepended
  | lead
  | vowel
  | tail
  /-- A Korean syllable without a tail. -/
  | openSyllable
  /-- A Korean syllable with a tail. -/
  | closedSyllable
  | regional
  | pictograph
  | consonant
  | other
deriving DecidableEq, Repr

/-- How many Korean syllables differ in their tails alone, one of them having none. -/
abbrev tailCount : Nat := 28

/-- The kind of a character. -/
def kind (c : Char) : Kind :=
  if c = '\r' then .carriageReturn
  else if c = '\n' then .lineFeed
  else if c = '\u200C' then .nonJoiner
  else if c = '\u200D' then .joiner
  else if c ∈ CharSet.controls then .control
  else if c ∈ CharSet.linkers then .linker
  else if c ∈ CharSet.extending then .extending
  else if c ∈ CharSet.spacing then .spacing
  else if c ∈ CharSet.prepended then .prepended
  else if c ∈ CharSet.leads then .lead
  else if c ∈ CharSet.vowels then .vowel
  else if c ∈ CharSet.tails then .tail
  else if c ∈ CharSet.syllables then
    if (c.toNat - '가'.toNat) % tailCount = 0 then .openSyllable else .closedSyllable
  else if c ∈ CharSet.regional then .regional
  else if c ∈ CharSet.pictographs then .pictograph
  else if c ∈ CharSet.consonants then .consonant
  else .other

/-- Whether a character extends what stands before it. -/
def Kind.isExtending : Kind → Bool
  | .extending | .linker | .nonJoiner => true
  | _ => false

/-- What stands before a boundary. -/
structure Context where
  /-- The kind of the last character. -/
  last : Kind
  /-- There is a pictograph with nothing but extending characters and at last one joiner behind
  it. -/
  pictograph : Bool
  /-- An odd number of flag letters come last. -/
  unpaired : Bool
  /-- There is a consonant with nothing but extending characters and joiners behind it. -/
  consonant : Bool
  /-- One of the characters behind that consonant is a linker. -/
  linked : Bool

namespace Context

/-- Before the first character there is nothing to join. -/
def start : Context := ⟨.control, false, false, false, false⟩

/-- What stands before the boundary behind the next character. -/
def push (x : Context) (next : Kind) : Context where
  last := next
  pictograph :=
    next = .pictograph || ((next.isExtending || next = .joiner) && x.pictograph && x.last ≠ .joiner)
  unpaired := next = .regional && !x.unpaired
  consonant :=
    next = .consonant ||
      ((next = .extending || next = .linker || next = .joiner) && x.consonant)
  linked :=
    next = .linker || ((next = .extending || next = .joiner) && x.linked)

/-- Whether a character joins what stands before it. -/
def joins (x : Context) (next : Kind) : Bool :=
  match x.last, next with
  | .carriageReturn, .lineFeed => true
  | .control, _ | .carriageReturn, _ | .lineFeed, _ => false
  | _, .control | _, .carriageReturn | _, .lineFeed => false
  | .lead, .lead | .lead, .vowel | .lead, .openSyllable | .lead, .closedSyllable => true
  | .openSyllable, .vowel | .vowel, .vowel => true
  | .openSyllable, .tail | .vowel, .tail | .closedSyllable, .tail | .tail, .tail => true
  | _, .extending | _, .linker | _, .nonJoiner | _, .joiner | _, .spacing => true
  | .prepended, _ => true
  | _, .consonant => x.consonant && x.linked
  | .joiner, .pictograph => x.pictograph
  | .regional, .regional => x.unpaired
  | _, _ => false

end Context

/-- The clusters of the characters behind a place, of which the first is the beginning of one. -/
def clustersFrom (before : Context) : List Char → List (List Char)
  | [] => []
  | c :: rest =>
    let here := before.push (kind c)
    match rest, clustersFrom here rest with
    | next :: _, cluster :: others =>
      if here.joins (kind next) then (c :: cluster) :: others else [c] :: cluster :: others
    | _, others => [c] :: others

/-- The clusters of a text. -/
def ofChars (text : List Char) : List (List Char) :=
  clustersFrom .start text

end Chip8.Cluster
