import Chip8.Keypad

/-!
# Keyboard

The keypad is laid out on the left half of a keyboard:

```
1 2 3 4         1 2 3 C
Q W E R         4 5 6 D
A S D F         7 8 9 E
Z X C V         A 0 B F
```

## Main definitions

* `KeyCode`, `KeyKind`, `KeyEvent` — what a terminal tells of a key
* `KeyCode.ofTyped` — the key behind a typed character
* `Keyboard.layout`, `KeyCode.key?` — the key of the keypad that a key of the keyboard stands for
-/

namespace Chip8

/-- A key of the keyboard, as far as it matters. -/
inductive KeyCode where
  | char (c : Char)
  | escape
  | other
deriving DecidableEq, Repr

/-- What happened to the key. -/
inductive KeyKind where
  | press
  /-- The key is still down, and the keyboard repeats it. -/
  | held
  | release
deriving DecidableEq, Repr

/-- A key event of the terminal. -/
structure KeyEvent where
  code : KeyCode
  kind : KeyKind
deriving DecidableEq, Repr

namespace Keyboard

/-- The characters of the layout, with the keys they stand for. -/
def layout : List (Char × Key) :=
  [('1', 0x1), ('2', 0x2), ('3', 0x3), ('4', 0xC),
   ('q', 0x4), ('w', 0x5), ('e', 0x6), ('r', 0xD),
   ('a', 0x7), ('s', 0x8), ('d', 0x9), ('f', 0xE),
   ('z', 0xA), ('x', 0x0), ('c', 0xB), ('v', 0xF)]

end Keyboard

namespace KeyCode

/-- The key that a code stands for.  Letters count in either case. -/
def key? : KeyCode → Option Key
  | .char c => Keyboard.layout.lookup c.toLower
  | .escape | .other => none

/-- The key behind a character as a terminal sends it.  Control characters are keys typed with
the control key held, apart from those that have a key of their own. -/
def ofTyped (c : Char) : KeyCode :=
  if c = '\x1B' then .escape
  else if c = '\r' ∨ c = '\t' ∨ c = '\x7F' then .other
  else if c = '\x00' then .char ' '
  else if c.toNat < 0x1B then .char (Char.ofNat (c.toNat + 0x60))
  else if c.toNat < 0x20 then .char (Char.ofNat (c.toNat + 0x18))
  else .char c

end KeyCode

end Chip8
