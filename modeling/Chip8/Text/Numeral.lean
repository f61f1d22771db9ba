/-!
# Numerals

Hexadecimal and decimal numerals, written and read.  Everything the library prints in
hexadecimal uses upper-case digits, either in a fixed number of places or in as many places as
the number needs but never fewer than a minimum.

## Main definitions

* `Numeral.hex` — the last `width` hexadecimal digits of a number
* `Numeral.hexAtLeast` — all hexadecimal digits, padded with zeros to a minimum
* `Numeral.alignedDecimal` — decimal, padded with blanks on the left
* `Numeral.decimal?` — reading an unsigned decimal numeral
-/

namespace Chip8.Numeral

/-- The upper-case hexadecimal digit of a value below sixteen. -/
def hexDigit (d : Nat) : Char :=
  if d < 10 then Char.ofNat (48 + d) else Char.ofNat (55 + d)

/-- The value of a decimal digit. -/
def decimalValue? (c : Char) : Option Nat :=
  if 48 ≤ c.toNat ∧ c.toNat ≤ 57 then some (c.toNat - 48) else none

/-- The value of a hexadecimal digit; of the letters only the upper-case ones count. -/
def hexValue? (c : Char) : Option Nat :=
  if 65 ≤ c.toNat ∧ c.toNat ≤ 70 then some (c.toNat - 55) else decimalValue? c

/-- The last `width` hexadecimal digits of `n`, the most significant one first. -/
def hex : Nat → Nat → List Char
  | 0, _ => []
  | width + 1, n => hexDigit (n >>> (4 * width) % 16) :: hex width n

/-- The hexadecimal digits of `n` without leading zeros, but at least `least` places. -/
def hexAtLeast (least n : Nat) : List Char :=
  hex (max least (n.log2 / 4 + 1)) n

/-- The decimal digits of `n`, padded on the left with blanks to `width` columns. -/
def alignedDecimal (width n : Nat) : List Char :=
  let digits := (toString n).toList
  List.replicate (width - digits.length) ' ' ++ digits

/-- The value of a string of decimal digits read after the digits of `before`. -/
def decimalFrom (before : Nat) : List Char → Option Nat
  | [] => some before
  | c :: rest => (decimalValue? c).bind fun digit => decimalFrom (before * 10 + digit) rest

/-- Reads an unsigned decimal numeral: one optional plus sign, then at least one digit and
nothing else.  Leading zeros are allowed. -/
def decimal? : List Char → Option Nat
  | [] => none
  | '+' :: digits => if digits.isEmpty then none else decimalFrom 0 digits
  | digits => decimalFrom 0 digits

theorem hexValue?_lt {c : Char} {d : Nat} (h : hexValue? c = some d) : d < 16 := by
  simp only [hexValue?, decimalValue?] at h
  split at h
  · cases h
    omega
  · split at h
    · cases h
      omega
    · cases h

/-- Every value below sixteen is read back from its digit. -/
theorem hexValue?_hexDigit {d : Nat} (h : d < 16) : hexValue? (hexDigit d) = some d := by
  revert d
  decide

@[simp] theorem length_hex (width n : Nat) : (hex width n).length = width := by
  induction width with
  | zero => rfl
  | succ width ih => simp [hex, ih]

end Chip8.Numeral
