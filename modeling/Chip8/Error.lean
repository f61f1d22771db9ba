import Chip8.Text.Numeral

/-!
# Errors

What can go wrong for good.  Conditions a program can live with, such as a word that is no
instruction, are outcomes of a step and not errors.

## Main definitions

* `Error` — the causes
* `Error.message` — their wording
-/

namespace Chip8

/-- The causes for which an operation is refused. -/
inductive Error where
  /-- An access at or past `address` left the memory. -/
  | memoryFault (address : Nat)
  /-- A subroutine returned while the call stack was empty. -/
  | stackUnderflow
  /-- There are sixteen keys and `index` is none of them. -/
  | invalidKey (index : UInt8)
  /-- The program image at `path` cannot be read. -/
  | loadFailure (path : String)
deriving DecidableEq, Repr

/-- The wording of an error. -/
def Error.message : Error → String
  | .memoryFault address =>
    "memory access out of bounds at address 0x" ++ String.ofList (Numeral.hexAtLeast 4 address)
  | .stackUnderflow => "stack underflow: return from subroutine with an empty call stack"
  | .invalidKey index =>
    "invalid key index: 0x" ++ String.ofList (Numeral.hexAtLeast 2 index.toNat)
  | .loadFailure path => "failed to load program image " ++ path

end Chip8
