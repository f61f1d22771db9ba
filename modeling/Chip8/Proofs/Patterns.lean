import Chip8.Opcode.Table
import Chip8.Proofs.Numerals

/-!
# What a pattern means

A word is four nibbles, and reading a pattern shifts one nibble after the other into two words that
were zero: the digit and a full nibble for a character that is a digit, zero and zero for any other.
After four characters nothing is left of what the two words were before, so their nibbles are what
the characters fix.  A word is compared with the two nibble by nibble, and where the character is no
digit both sides are zero.

## Main definitions

* `Word.nibbles`, `Word.shiftIn` — a word as a shift register of four nibbles
* `Opcode.Pattern.fixedDigit`, `Opcode.Pattern.fixedMask` — what a character fixes

## Main statements

* `nibbles_foldl_shiftIn` — what is left after shifting in any number of nibbles
* `matches_ofChars_iff` — the words that match a pattern, by its characters
* `matches_iff_exists_operand` — the words that match a pattern, by their operand bits
* `pattern_fixes_its_digits` — all of it
-/

namespace Chip8

/-! ## Words as nibbles -/

namespace Word

/-- The nibbles of a word, the top one first. -/
def nibbles (w : Word) : List Nat :=
  [w.toNat / 4096, w.toNat / 256 % 16, w.toNat / 16 % 16, w.toNat % 16]

/-- The word with its nibbles moved up by one place and `digit` behind them. -/
def shiftIn (w : Word) (digit : Nat) : Word :=
  w <<< 4 ||| UInt16.ofNat digit

@[simp] theorem length_nibbles (w : Word) : w.nibbles.length = 4 := rfl

theorem nibble_lt {w : Word} {n : Nat} (mem : n ∈ w.nibbles) : n < 16 := by
  have := w.toNat_lt
  simp only [nibbles, List.mem_cons, List.not_mem_nil, or_false] at mem
  omega

/-- Words with the same nibbles are the same. -/
theorem eq_of_nibbles {v w : Word} (same : v.nibbles = w.nibbles) : v = w := by
  simp only [nibbles, List.cons.injEq] at same
  exact UInt16.toNat_inj.mp (by omega)

theorem nibbles_and (v w : Word) :
    (v &&& w).nibbles = List.zipWith (· &&& ·) v.nibbles w.nibbles := by
  have quotient (n : Nat) := Nat.and_div_two_pow (a := v.toNat) (b := w.toNat) (n := n)
  have remainder (a b : Nat) : (a &&& b) % 16 = a % 16 &&& b % 16 := Nat.and_mod_two_pow (n := 4)
  have top := quotient 12
  have second := quotient 8
  have third := quotient 4
  simp only [Nat.reducePow] at top second third
  simp only [nibbles, UInt16.toNat_and, List.zipWith_cons_cons, List.zipWith_nil_left, top, second,
    third, remainder]

theorem nibbles_not (w : Word) : (~~~ w).nibbles = w.nibbles.map (15 - ·) := by
  have := w.toNat_lt
  simp only [nibbles, UInt16.toNat_not, UInt16.size, List.map_cons, List.map_nil, List.cons.injEq,
    and_true]
  omega

theorem toNat_shiftIn (w : Word) {digit : Nat} (small : digit < 16) :
    (w.shiftIn digit).toNat = w.toNat * 16 % 65536 + digit := by
  have shifted : (w <<< 4).toNat = (w.toNat % 4096) <<< 4 := by
    rw [UInt16.toNat_shiftLeft, Nat.shiftLeft_eq, Nat.shiftLeft_eq]
    simp only [UInt16.reduceToNat, Nat.reduceMod, Nat.reducePow]
    omega
  have own : (UInt16.ofNat digit).toNat = digit := by
    rw [UInt16.toNat_ofNat']
    omega
  -- the lower nibble is free, so the digit is added to the others
  rw [shiftIn, UInt16.toNat_or, shifted, own, ← Nat.shiftLeft_add_eq_or_of_lt small,
    Nat.shiftLeft_eq]
  omega

/-- The top nibble falls out, and the digit comes in at the end. -/
theorem nibbles_shiftIn (w : Word) {digit : Nat} (small : digit < 16) :
    (w.shiftIn digit).nibbles = (w.nibbles ++ [digit]).drop 1 := by
  have := w.toNat_lt
  simp only [nibbles, toNat_shiftIn w small, List.cons_append, List.nil_append, List.drop_succ_cons,
    List.drop_zero, List.cons.injEq, and_true]
  omega

/-- As many nibbles fall out as are shifted in. -/
theorem nibbles_foldl_shiftIn (w : Word) {digits : List Nat} (small : ∀ d ∈ digits, d < 16) :
    (digits.foldl shiftIn w).nibbles = (w.nibbles ++ digits).drop digits.length := by
  induction digits generalizing w with
  | nil => rw [List.foldl_nil, List.append_nil, List.length_nil, List.drop_zero]
  | cons digit rest ih =>
      obtain ⟨first, later⟩ := List.forall_mem_cons.mp small
      have one : (w.nibbles ++ [digit]).drop 1 ++ rest = (w.nibbles ++ digit :: rest).drop 1 := rfl
      rw [List.foldl_cons, ih _ later, nibbles_shiftIn w first, one, List.drop_drop,
        List.length_cons, Nat.add_comm]

end Word

namespace Opcode.Pattern

open Numeral

/-! ## Reading a pattern -/

/-- The nibble that a character fixes, zero if it fixes none. -/
def fixedDigit (c : Char) : Nat :=
  (hexValue? c).getD 0

/-- The bits that a character fixes: a whole nibble or nothing. -/
def fixedMask (c : Char) : Nat :=
  if (hexValue? c).isSome then 15 else 0

theorem fixedDigit_lt (c : Char) : fixedDigit c < 16 := by
  cases value : hexValue? c with
  | none => simp [fixedDigit, value]
  | some d => simpa [fixedDigit, value] using hexValue?_lt value

theorem fixedMask_eq_or (c : Char) : fixedMask c = 0 ∨ fixedMask c = 15 := by
  cases value : hexValue? c with
  | none => exact .inl (by simp [fixedMask, value])
  | some d => exact .inr (by simp [fixedMask, value])

/-- Reading a character shifts a nibble into both words. -/
theorem push_eq (p : Pattern) (c : Char) :
    p.push c = ⟨p.value.shiftIn (fixedDigit c), p.mask.shiftIn (fixedMask c)⟩ := by
  cases value : hexValue? c with
  | none => simp [push, fixedDigit, fixedMask, value, Word.shiftIn]
  | some d => simp [push, fixedDigit, fixedMask, value, Word.shiftIn]

theorem foldl_push (p : Pattern) (text : List Char) :
    text.foldl push p =
      ⟨(text.map fixedDigit).foldl Word.shiftIn p.value,
        (text.map fixedMask).foldl Word.shiftIn p.mask⟩ := by
  induction text generalizing p with
  | nil => rfl
  | cons c rest ih => rw [List.foldl_cons, ih, push_eq]; rfl

variable {text : List Char}

/-- Four characters push out whatever was there before. -/
theorem nibbles_ofChars (four : text.length = 4) :
    (ofChars text).value.nibbles = text.map fixedDigit ∧
      (ofChars text).mask.nibbles = text.map fixedMask := by
  have replaced (f : Char → Nat) (small : ∀ c, f c < 16) :
      ((text.map f).foldl Word.shiftIn 0).nibbles = text.map f := by
    have small : ∀ d ∈ text.map f, d < 16 := by
      intro d mem
      obtain ⟨c, -, rfl⟩ := List.mem_map.mp mem
      exact small c
    have length : (text.map f).length = (0 : Word).nibbles.length := by
      rw [List.length_map, four, Word.length_nibbles]
    rw [Word.nibbles_foldl_shiftIn 0 small, length, List.drop_left]
  have maskSmall (c : Char) : fixedMask c < 16 := by
    have := fixedMask_eq_or c
    omega
  rw [ofChars, foldl_push]
  exact ⟨replaced fixedDigit fixedDigit_lt, replaced fixedMask maskSmall⟩

/-! ## Matching words -/

/-- A nibble agrees with a character if it is that digit, or if the character is no digit. -/
theorem and_fixedMask_eq_iff {n : Nat} (small : n < 16) (c : Char) :
    n &&& fixedMask c = fixedDigit c ↔ ∀ d : Nat, hexDigits[d]? = some c → n = d := by
  have all : n &&& 15 = n := by
    rw [Nat.and_two_pow_sub_one_eq_mod n 4]
    omega
  cases value : hexValue? c with
  | none =>
      have noDigit : ∀ d : Nat, hexDigits[d]? ≠ some c := by
        intro d place
        rw [hexValue?_eq_some_iff.mpr place] at value
        cases value
      simp [fixedMask, fixedDigit, value, noDigit]
  | some digit =>
      simp only [fixedMask, fixedDigit, value, ← hexValue?_eq_some_iff, Option.isSome_some,
        Option.getD_some, if_pos, all, Option.some.injEq, forall_eq']

/-- Nibbles agree with a pattern if each one agrees with its character. -/
theorem zipWith_and_eq_iff {ns : List Nat} (small : ∀ n ∈ ns, n < 16)
    (length : ns.length = text.length) :
    List.zipWith (· &&& ·) ns (text.map fixedMask) = text.map fixedDigit ↔
      ∀ (i d : Nat) (c : Char), text[i]? = some c → hexDigits[d]? = some c → ns[i]? = some d := by
  induction text generalizing ns with
  | nil => simp [List.length_eq_zero_iff.mp length]
  | cons c rest ih =>
      obtain ⟨n, others, rfl⟩ := List.exists_cons_of_length_eq_add_one length
      obtain ⟨first, later⟩ := List.forall_mem_cons.mp small
      rw [List.map_cons, List.map_cons, List.zipWith_cons_cons, List.cons.injEq,
        and_fixedMask_eq_iff first, ih later (Nat.succ.inj length)]
      constructor
      · rintro ⟨here, there⟩ i d b char digit
        cases i with
        | zero =>
            cases char
            exact congrArg some (here d digit)
        | succ i => exact there i d b char digit
      · intro all
        exact ⟨fun d digit => Option.some.inj (all 0 d c rfl digit),
          fun i d b char digit => all (i + 1) d b char digit⟩

/-- A word matches a pattern if its nibble is the digit wherever the pattern has one. -/
theorem matches_ofChars_iff (four : text.length = 4) (w : Word) :
    (ofChars text).Matches w ↔
      ∀ (i d : Nat) (c : Char),
        text[i]? = some c → hexDigits[d]? = some c → w.nibbles[i]? = some d := by
  obtain ⟨value, mask⟩ := nibbles_ofChars four
  have length : w.nibbles.length = text.length := four.symm
  have nibbles : w &&& (ofChars text).mask = (ofChars text).value ↔
      (w &&& (ofChars text).mask).nibbles = (ofChars text).value.nibbles :=
    ⟨congrArg Word.nibbles, Word.eq_of_nibbles⟩
  rw [Matches, nibbles, Word.nibbles_and, value, mask,
    zipWith_and_eq_iff (fun n => Word.nibble_lt) length]

/-- The fixed bits of a pattern match it. -/
theorem matches_value (four : text.length = 4) : (ofChars text).Matches (ofChars text).value := by
  rw [matches_ofChars_iff four, (nibbles_ofChars four).1]
  intro i d c char digit
  rw [List.getElem?_map, char, Option.map_some, fixedDigit, hexValue?_eq_some_iff.mpr digit,
    Option.getD_some]

variable {p : Pattern}

/-- No fixed bit is an operand bit. -/
theorem value_and_operandMask (own : p.Matches p.value) : p.value &&& p.operandMask = 0 := by
  calc p.value &&& p.operandMask = p.value &&& p.mask &&& ~~~ p.mask := by rw [own, operandMask]
    _ = 0 := by rw [UInt16.and_assoc, UInt16.and_not_self, UInt16.and_zero]

/-- The words that match a pattern have its fixed bits and any operand bits. -/
theorem matches_iff_exists_operand (own : p.Matches p.value) (w : Word) :
    p.Matches w ↔ ∃ o, w = p.value ||| (o &&& p.operandMask) := by
  -- both directions are about every bit on its own
  have split (v : Word) : v &&& p.mask ||| (v &&& p.operandMask) = v := by
    apply UInt16.eq_of_toBitVec_eq
    ext i
    simp only [operandMask, UInt16.toBitVec_or, UInt16.toBitVec_and, UInt16.toBitVec_not,
      BitVec.getElem_or, BitVec.getElem_and, BitVec.getElem_not]
    cases v.toBitVec[i] <;> cases p.mask.toBitVec[i] <;> rfl
  have masked (v o : Word) : (v ||| (o &&& p.operandMask)) &&& p.mask = v &&& p.mask := by
    apply UInt16.eq_of_toBitVec_eq
    ext i
    simp only [operandMask, UInt16.toBitVec_or, UInt16.toBitVec_and, UInt16.toBitVec_not,
      BitVec.getElem_or, BitVec.getElem_and, BitVec.getElem_not]
    cases v.toBitVec[i] <;> cases o.toBitVec[i] <;> cases p.mask.toBitVec[i] <;> rfl
  constructor
  · intro word
    refine ⟨w, ?_⟩
    rw [← word, split]
  · rintro ⟨o, rfl⟩
    rw [Matches, masked, own]

/-! ## Rows of a table -/

/-- **A pattern fixes its digits.**  Take the row of a table that is made from any pattern of four
characters.  A word matches it exactly if, at every position where the pattern has one of the
sixteen digits, the nibble of the word is that digit.  The fixed bits lie inside the mask.  The mask
and the mask of the operand bits are complements of each other, and both are made of whole nibbles.
The words that match are the fixed bits together with any operand bits. -/
theorem pattern_fixes_its_digits (opcode : Opcode) (text : String) (four : text.length = 4) :
    let p := (Entry.ofText opcode text).pattern
    (∀ w : Word, p.Matches w ↔
      ∀ (i d : Nat) (c : Char),
        text.toList[i]? = some c → hexDigits[d]? = some c → w.nibbles[i]? = some d) ∧
    p.value &&& p.operandMask = 0 ∧
    p.mask &&& p.operandMask = 0 ∧ p.mask ||| p.operandMask = 0xFFFF ∧
    (∀ n ∈ p.mask.nibbles ++ p.operandMask.nibbles, n = 0 ∨ n = 15) ∧
    (∀ o : Word, p.Matches (p.value ||| (o &&& p.operandMask))) ∧
    ∀ w : Word, p.Matches w → ∃ o, w = p.value ||| (o &&& p.operandMask) := by
  intro p
  have own : p.Matches p.value := matches_value four
  have mask : p.mask.nibbles = text.toList.map fixedMask := (nibbles_ofChars four).2
  have whole : ∀ n ∈ p.mask.nibbles, n = 0 ∨ n = 15 := by
    intro n mem
    rw [mask] at mem
    obtain ⟨c, -, rfl⟩ := List.mem_map.mp mem
    exact fixedMask_eq_or c
  refine ⟨matches_ofChars_iff four, value_and_operandMask own, UInt16.and_not_self,
    UInt16.or_not_self, ?_, fun o => (matches_iff_exists_operand own _).mpr ⟨o, rfl⟩,
    fun w => (matches_iff_exists_operand own w).mp⟩
  intro n mem
  rcases List.mem_append.mp mem with fixed | operand
  · exact whole n fixed
  · rw [operandMask, Word.nibbles_not] at operand
    obtain ⟨other, fixed, rfl⟩ := List.mem_map.mp operand
    have := whole other fixed
    omega

/-- The pattern of the addition with a carry fixes the outer two nibbles, and so `8AB4` matches it
while `8AB5` does not. -/
theorem outer_nibbles_of_carry_addition :
    let p := (Entry.ofText .binaryAdd "8XY4").pattern
    "8XY4".length = 4 ∧ p.Matches 0x8AB4 ∧ ¬ p.Matches 0x8AB5 ∧ p.mask = 0xF00F ∧
    (0x8AB4 : Word).nibbles[3]? = some 4 ∧ ∃ o, 0x8AB4 = p.value ||| (o &&& p.operandMask) := by
  intro p
  obtain ⟨digits, -, -, -, -, -, operands⟩ := pattern_fixes_its_digits .binaryAdd "8XY4" rfl
  have word : p.Matches 0x8AB4 := by decide
  exact ⟨rfl, word, by decide, by decide, (digits _).mp word 3 4 '4' rfl rfl, operands _ word⟩

end Opcode.Pattern

end Chip8
