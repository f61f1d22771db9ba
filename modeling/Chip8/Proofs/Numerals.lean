import Chip8.Text.Numeral

/-!
# Numerals read back

The digits of hexadecimal numerals are the sixteen characters of `hexDigits`, each at the place of
its value.  A numeral of a fixed number of places is read from the left, and what has been read so
far is the number without the digits that are still to come.  So a numeral with room for all digits
of a number is read back as that number.

## Main definitions

* `Numeral.hexDigits` — the digits
* `Numeral.hexadecimal?` — reading a hexadecimal numeral
* `Numeral.IsHexadecimal` — the numerals of a number

## Main statements

* `hexValue?_eq_some_iff` — the value of a digit is its place among the digits
* `hexadecimal?_hex` — a numeral is read back
* `lineFeed_notMem_hex`, `lineFeed_notMem_toString` — a numeral stays on its line
* `decimal?_toString` — a decimal numeral is read back
-/

namespace Chip8.Numeral

/-! ## Digits -/

/-- The hexadecimal digits, each at the place of its value. -/
def hexDigits : List Char :=
  "0123456789ABCDEF".toList

theorem getElem?_hexDigits {d : Nat} (small : d < 16) : hexDigits[d]? = some (hexDigit d) := by
  revert d
  decide

/-- A digit is the character of its value. -/
theorem hexDigit_of_hexValue? {c : Char} {d : Nat} (value : hexValue? c = some d) :
    hexDigit d = c := by
  rw [hexValue?, decimalValue?] at value
  split at value
  · next letter =>
      have code : 55 + (c.toNat - 55) = c.toNat := by omega
      rw [← Option.some.inj value, hexDigit, if_neg (by omega), code, Char.ofNat_toNat]
  · split at value
    · next digit =>
        have code : 48 + (c.toNat - 48) = c.toNat := by omega
        rw [← Option.some.inj value, hexDigit, if_pos (by omega), code, Char.ofNat_toNat]
    · cases value

/-- The value of a digit is its place among the digits, and other characters have none. -/
theorem hexValue?_eq_some_iff {c : Char} {d : Nat} :
    hexValue? c = some d ↔ hexDigits[d]? = some c := by
  constructor
  · intro value
    rw [getElem?_hexDigits (hexValue?_lt value), hexDigit_of_hexValue? value]
  · intro place
    have small : d < 16 := (List.getElem?_eq_some_iff.mp place).1
    rw [getElem?_hexDigits small] at place
    rw [← Option.some.inj place, hexValue?_hexDigit small]

/-! ## Reading -/

/-- Reads hexadecimal digits behind those that gave the number `before`. -/
def hexadecimalFrom (before : Nat) : List Char → Option Nat
  | [] => some before
  | c :: rest => (hexValue? c).bind fun digit => hexadecimalFrom (before * 16 + digit) rest

/-- Reads a hexadecimal numeral. -/
def hexadecimal? (text : List Char) : Option Nat :=
  hexadecimalFrom 0 text

/-- Behind the digits before them, the last digits of a number give the number. -/
theorem hexadecimalFrom_hex (width n : Nat) :
    hexadecimalFrom (n >>> (4 * width)) (hex width n) = some n := by
  induction width with
  | zero => rfl
  | succ width ih =>
      have digit : hexValue? (hexDigit (n >>> (4 * width) % 16)) = some (n >>> (4 * width) % 16) :=
        hexValue?_hexDigit (Nat.mod_lt _ (by decide))
      have before : n >>> (4 * (width + 1)) * 16 + n >>> (4 * width) % 16 = n >>> (4 * width) := by
        rw [show 4 * (width + 1) = 4 * width + 4 from rfl, Nat.shiftRight_add,
          Nat.shiftRight_eq_div_pow (n >>> (4 * width)) 4]
        omega
      rw [hex, hexadecimalFrom, digit, Option.bind_some, before, ih]

/-- A number with no more digits than the numeral has places is read back. -/
theorem hexadecimal?_hex {width n : Nat} (fits : n >>> (4 * width) = 0) :
    hexadecimal? (hex width n) = some n := by
  have read := hexadecimalFrom_hex width n
  rwa [fits] at read

/-! ## Characters of numerals -/

theorem mem_hexDigits_of_mem_hex {width n : Nat} {c : Char} (mem : c ∈ hex width n) :
    c ∈ hexDigits := by
  induction width with
  | zero => cases mem
  | succ width ih =>
      rcases List.mem_cons.mp mem with rfl | later
      · exact List.mem_of_getElem? (getElem?_hexDigits (Nat.mod_lt _ (by decide)))
      · exact ih later

/-- The text is made of digits and read as the number. -/
structure IsHexadecimal (text : List Char) (n : Nat) : Prop where
  digits : ∀ c ∈ text, c ∈ hexDigits
  value : hexadecimal? text = some n

theorem isHexadecimal_hex {width n : Nat} (fits : n >>> (4 * width) = 0) :
    IsHexadecimal (hex width n) n :=
  ⟨fun _ => mem_hexDigits_of_mem_hex, hexadecimal?_hex fits⟩

/-- No hexadecimal numeral has a line feed in it. -/
theorem lineFeed_notMem_hex (width n : Nat) : '\n' ∉ hex width n :=
  fun mem => absurd (mem_hexDigits_of_mem_hex mem) (by decide)

/-- No decimal numeral has a line feed in it. -/
theorem lineFeed_notMem_toString (n : Nat) : '\n' ∉ (toString n).toList := by
  intro mem
  rw [Nat.toString_eq_ofList_toDigits, String.toList_ofList] at mem
  have digit := Nat.isDigit_of_mem_toDigits (by decide) (by decide) mem
  exact absurd digit (by decide)

/-! ## Decimal numerals -/

theorem decimalValue?_of_isDigit {c : Char} (digit : c.isDigit = true) :
    decimalValue? c = some (c.toNat - '0'.toNat) := by
  have range : 48 ≤ c.toNat ∧ c.toNat ≤ 57 := by
    simpa [Char.isDigit, UInt32.le_iff_toNat_le] using digit
  rw [decimalValue?, if_pos range]
  rfl

theorem decimalFrom_of_isDigit {text : List Char} (digits : ∀ c ∈ text, c.isDigit = true)
    (before : Nat) : decimalFrom before text = some (Nat.ofDigitChars 10 text before) := by
  induction text generalizing before with
  | nil => rfl
  | cons c rest ih =>
      rw [decimalFrom, decimalValue?_of_isDigit (digits c List.mem_cons_self), Option.bind_some,
        ih (fun d mem => digits d (List.mem_cons_of_mem _ mem)), Nat.ofDigitChars_cons,
        Nat.mul_comm]

/-- A number is read back from its decimal numeral, which begins with a digit. -/
theorem decimal?_toString (n : Nat) :
    ∃ first rest, (toString n).toList = first :: rest ∧ first.isDigit = true ∧
      decimal? (toString n).toList = some n := by
  have text : (toString n).toList = Nat.toDigits 10 n := by
    rw [Nat.toString_eq_ofList_toDigits, String.toList_ofList]
  have digits : ∀ c ∈ Nat.toDigits 10 n, c.isDigit = true :=
    fun c => Nat.isDigit_of_mem_toDigits (by decide) (by decide)
  have value := decimalFrom_of_isDigit digits 0
  rw [Nat.ofDigitChars_ten_toDigits] at value
  rw [text]
  cases numeral : Nat.toDigits 10 n with
  | nil => exact absurd numeral Nat.toDigits_ne_nil
  | cons first rest =>
      rw [numeral] at digits value
      have digit := digits first List.mem_cons_self
      refine ⟨first, rest, rfl, digit, ?_⟩
      rw [decimal?]
      · exact value
      · exact nofun
      · rintro others ⟨rfl, -⟩
        cases digit

end Chip8.Numeral
