import Chip8.Opcode.Table
import Mathlib.Data.List.Nodup

/-!
# Decoding

A word belongs to the first row of the table that it matches.  Two patterns *clash* if some bit is
fixed by both and differently; no word matches both of them.  In the table every two rows clash,
except that `0NNN` stands behind two rows it contains.  So for every other family the order of the
table makes no difference, and the words of the family are those with its fixed bits.

## Main definitions

* `Pattern.Clashes` — no word matches both patterns
* `fixed` — the bits of a family
* `Includes` — the words of a family, by these bits

## Main statements

* `decode_eq_some_iff`, `decode_iff_matches` — the words of a family other than `0NNN`, by the row
  of the table and by the bits of the family
* `decode_eq_none_iff` — the words of no family
* `decode_iff_includes` — the words of any family, `0NNN` too
* `decode_subroutineReturn_iff`, `decode_subroutineCall_iff`, `decode_draw_iff`,
  `decode_binaryCodedDecimal_iff`, `decode_store_iff`, `decode_load_iff` — the words of the
  families that can fail, and those of calls and returns
* `decode_clearScreen_iff` — the word that clears the screen
* `decode_rightShift_iff`, `decode_leftShift_iff` — the words of the shifts
* `decode_getKey_iff` — the words that begin a wait for a key
-/

namespace Chip8.Opcode

/-! ## Clashing patterns -/

namespace Pattern

/-- A bit that both patterns fix is set in one of them and not in the other. -/
def Clashes (p q : Pattern) : Prop :=
  p.value &&& q.mask ≠ q.value &&& p.mask

instance (p q : Pattern) : Decidable (p.Clashes q) :=
  inferInstanceAs (Decidable (p.value &&& q.mask ≠ q.value &&& p.mask))

/-- No word matches two patterns that clash: its bits under both masks would have two values. -/
theorem Clashes.not_matches {p q : Pattern} (clash : p.Clashes q) {w : Word}
    (first : p.Matches w) : ¬ q.Matches w := by
  intro second
  apply clash
  calc p.value &&& q.mask = w &&& p.mask &&& q.mask := by rw [first]
    _ = w &&& q.mask &&& p.mask := by
      rw [UInt16.and_assoc, UInt16.and_comm p.mask, ← UInt16.and_assoc]
    _ = q.value &&& p.mask := by rw [second]

end Pattern

/-! ## Rows of the table -/

/-- A row is found if every row before it clashes with it. -/
theorem lookupIn_eq_some {rows : List Entry} {e : Entry} {w : Word}
    (apart : rows.Pairwise fun before after =>
      before.pattern.Clashes after.pattern ∨ after.opcode = .machineRoutine)
    (mem : e ∈ rows) (own : e.opcode ≠ .machineRoutine) (h : e.pattern.Matches w) :
    lookupIn rows w = some e := by
  induction rows with
  | nil => simp at mem
  | cons row rest ih =>
      obtain ⟨first, later⟩ := List.pairwise_cons.mp apart
      rcases List.mem_cons.mp mem with rfl | inRest
      · simp [lookupIn, h]
      · -- the row in front clashes, so the word passes it by
        have clash := (first e inRest).resolve_right own
        have missed : ¬ row.pattern.Matches w := fun hit => clash.not_matches hit h
        simpa [lookupIn, missed] using ih later inRest

theorem table_apart : table.Pairwise fun before after =>
    before.pattern.Clashes after.pattern ∨ after.opcode = .machineRoutine := by
  decide +kernel

/-- The row of a word is in the table, and the word matches it. -/
theorem mem_table_of_lookup {e : Entry} {w : Word} (hit : lookup w = some e) :
    e ∈ table ∧ e.pattern.Matches w := by
  rw [lookup, lookupIn] at hit
  exact ⟨List.mem_of_find?_eq_some hit, by simpa using List.find?_some hit⟩

/-- Every family has one row only. -/
theorem opcode_injOn_table {e f : Entry} (he : e ∈ table) (hf : f ∈ table)
    (same : e.opcode = f.opcode) : e = f := by
  have nodup : (table.map Entry.opcode).Nodup := by decide +kernel
  exact List.inj_on_of_nodup_map nodup he hf same

/-- A word belongs to a family other than `0NNN` exactly if it matches the row of the family. -/
theorem decode_eq_some_iff {e : Entry} (mem : e ∈ table) (own : e.opcode ≠ .machineRoutine)
    (w : Word) : decode w = some e.opcode ↔ e.pattern.Matches w := by
  constructor
  · intro h
    obtain ⟨found, hit, same⟩ := Option.map_eq_some_iff.mp h
    obtain ⟨foundMem, foundMatches⟩ := mem_table_of_lookup hit
    rwa [← opcode_injOn_table foundMem mem same]
  · intro h
    rw [decode, lookup, lookupIn_eq_some table_apart mem own h]
    rfl

/-! ## Words of a family -/

/-- The bits that all words of a family share. -/
def fixed : Opcode → Pattern
  | .machineRoutine => ⟨0x0000, 0xF000⟩
  | .clearScreen => ⟨0x00E0, 0xFFFF⟩
  | .subroutineReturn => ⟨0x00EE, 0xFFFF⟩
  | .jump => ⟨0x1000, 0xF000⟩
  | .subroutineCall => ⟨0x2000, 0xF000⟩
  | .skipEqX => ⟨0x3000, 0xF000⟩
  | .skipNeqX => ⟨0x4000, 0xF000⟩
  | .skipXEqY => ⟨0x5000, 0xF00F⟩
  | .setImmediate => ⟨0x6000, 0xF000⟩
  | .add => ⟨0x7000, 0xF000⟩
  | .setXToY => ⟨0x8000, 0xF00F⟩
  | .binaryOr => ⟨0x8001, 0xF00F⟩
  | .binaryAnd => ⟨0x8002, 0xF00F⟩
  | .logicalXor => ⟨0x8003, 0xF00F⟩
  | .binaryAdd => ⟨0x8004, 0xF00F⟩
  | .subtractYFromX => ⟨0x8005, 0xF00F⟩
  | .rightShift => ⟨0x8006, 0xF00F⟩
  | .subtractXFromY => ⟨0x8007, 0xF00F⟩
  | .leftShift => ⟨0x800E, 0xF00F⟩
  | .skipXNeqY => ⟨0x9000, 0xF00F⟩
  | .setIndex => ⟨0xA000, 0xF000⟩
  | .jumpWithOffset => ⟨0xB000, 0xF000⟩
  | .random => ⟨0xC000, 0xF000⟩
  | .draw => ⟨0xD000, 0xF000⟩
  | .skipIfKeyPressed => ⟨0xE09E, 0xF0FF⟩
  | .skipIfKeyNotPressed => ⟨0xE0A1, 0xF0FF⟩
  | .setVxFromTimer => ⟨0xF007, 0xF0FF⟩
  | .getKey => ⟨0xF00A, 0xF0FF⟩
  | .setDelayTimer => ⟨0xF015, 0xF0FF⟩
  | .setSoundTimer => ⟨0xF018, 0xF0FF⟩
  | .addToIndex => ⟨0xF01E, 0xF0FF⟩
  | .fontChar => ⟨0xF029, 0xF0FF⟩
  | .binaryCodedDecimal => ⟨0xF033, 0xF0FF⟩
  | .store => ⟨0xF055, 0xF0FF⟩
  | .load => ⟨0xF065, 0xF0FF⟩

theorem pattern_of_mem_table : ∀ row ∈ table, row.pattern = row.opcode.fixed := by
  decide +kernel

theorem exists_row (opcode : Opcode) : ∃ row ∈ table, row.opcode = opcode := by
  cases opcode <;> decide +kernel

/-- A word has the bits of the family that it is decoded as. -/
theorem matches_of_decode {opcode : Opcode} {w : Word} (family : decode w = some opcode) :
    opcode.fixed.Matches w := by
  obtain ⟨row, hit, rfl⟩ := Option.map_eq_some_iff.mp family
  obtain ⟨mem, word⟩ := mem_table_of_lookup hit
  rwa [pattern_of_mem_table row mem] at word

/-- A word belongs to a family other than `0NNN` exactly if it has the bits of the family. -/
theorem decode_iff_matches {opcode : Opcode} (own : opcode ≠ .machineRoutine) (w : Word) :
    decode w = some opcode ↔ opcode.fixed.Matches w := by
  obtain ⟨row, mem, rfl⟩ := exists_row opcode
  rw [decode_eq_some_iff mem own, pattern_of_mem_table row mem]

/-- A word with the bits of a family other than `0NNN` belongs to no other one. -/
theorem eq_of_decode {opcode : Opcode} {w : Word} (family : decode w = some opcode) (own : Opcode)
    (notRoutine : own ≠ .machineRoutine) (word : own.fixed.Matches w) : opcode = own :=
  Option.some.inj (family.symm.trans ((decode_iff_matches notRoutine w).mpr word))

/-- The word that ends a program belongs to `0NNN`. -/
theorem ne_zero_of_decode {opcode : Opcode} {w : Word} (own : opcode ≠ .machineRoutine)
    (family : decode w = some opcode) : w ≠ 0 := by
  rintro rfl
  exact own (Option.some.inj (family.symm.trans (by decide)))

/-- A word belongs to no family exactly if it has the bits of none. -/
theorem decode_eq_none_iff (w : Word) :
    decode w = none ↔ ∀ opcode : Opcode, ¬ opcode.fixed.Matches w := by
  rw [decode, Option.map_eq_none_iff, lookup, lookupIn, List.find?_eq_none]
  simp only [decide_eq_true_eq]
  constructor
  · intro missed opcode
    obtain ⟨row, mem, rfl⟩ := exists_row opcode
    rw [← pattern_of_mem_table row mem]
    exact missed row mem
  · intro none row mem
    rw [pattern_of_mem_table row mem]
    exact none row.opcode

/-- The family includes the word: the word has the bits of the family.  The words `00E0` and `00EE`
have those of `0NNN` too, but are families of their own. -/
def Includes (opcode : Opcode) (w : Word) : Prop :=
  w &&& opcode.fixed.mask = opcode.fixed.value ∧
    (opcode = .machineRoutine → w ≠ 0x00E0 ∧ w ≠ 0x00EE)

instance (opcode : Opcode) (w : Word) : Decidable (opcode.Includes w) :=
  inferInstanceAs (Decidable (_ ∧ _))

/-- But for these two words, no family shares a word with `0NNN`. -/
theorem eq_machineRoutine_of_matches {opcode : Opcode} {w : Word}
    (routine : (fixed .machineRoutine).Matches w) (word : opcode.fixed.Matches w)
    (notClear : w ≠ 0x00E0) (notReturn : w ≠ 0x00EE) : opcode = .machineRoutine := by
  by_contra other
  have apart : opcode = .clearScreen ∨ opcode = .subroutineReturn ∨
      opcode.fixed.Clashes (fixed .machineRoutine) := by
    revert other
    cases opcode <;> decide
  have whole : w &&& 0xFFFF = w := UInt16.and_neg_one
  rcases apart with rfl | rfl | clash
  · exact notClear (whole.symm.trans word)
  · exact notReturn (whole.symm.trans word)
  · exact clash.not_matches word routine

/-- A word is decoded as the family that includes it. -/
theorem decode_iff_includes (opcode : Opcode) (w : Word) :
    decode w = some opcode ↔ opcode.Includes w := by
  by_cases own : opcode = .machineRoutine
  · subst own
    constructor
    · intro family
      refine ⟨matches_of_decode family, fun _ => ⟨?_, ?_⟩⟩
      · rintro rfl
        exact absurd family (by decide)
      · rintro rfl
        exact absurd family (by decide)
    · rintro ⟨word, others⟩
      obtain ⟨notClear, notReturn⟩ := others rfl
      cases family : decode w with
      | none => exact absurd word ((decode_eq_none_iff w).mp family .machineRoutine)
      | some opcode =>
          have matched := matches_of_decode family
          exact congrArg some (eq_machineRoutine_of_matches word matched notClear notReturn)
  · rw [decode_iff_matches own]
    exact ⟨fun word => ⟨word, fun routine => absurd routine own⟩, And.left⟩

/-- A word that no family includes is not decoded. -/
theorem decode_eq_none_iff_not_includes (w : Word) :
    decode w = none ↔ ∀ opcode : Opcode, ¬ opcode.Includes w := by
  rw [Option.eq_none_iff_forall_ne_some]
  exact forall_congr' fun opcode => not_congr (decode_iff_includes opcode w)

/-! ## Words of some families -/

/-- A family without operands has one word, since all its bits are fixed. -/
theorem decode_iff_eq {opcode : Opcode} (own : opcode ≠ .machineRoutine)
    (whole : opcode.fixed.mask = 0xFFFF) (w : Word) :
    decode w = some opcode ↔ w = opcode.fixed.value := by
  have all : w &&& 0xFFFF = w := UInt16.and_neg_one
  rw [decode_iff_matches own, Pattern.Matches, whole, all]

theorem decode_clearScreen_iff (w : Word) : decode w = some .clearScreen ↔ w = 0x00E0 :=
  decode_iff_eq (by decide) rfl w

theorem decode_subroutineReturn_iff (w : Word) :
    decode w = some .subroutineReturn ↔ w = 0x00EE :=
  decode_iff_eq (by decide) rfl w

theorem decode_subroutineCall_iff (w : Word) :
    decode w = some .subroutineCall ↔ w &&& 0xF000 = 0x2000 :=
  decode_iff_matches (by decide) w

theorem decode_rightShift_iff (w : Word) :
    decode w = some .rightShift ↔ w &&& 0xF00F = 0x8006 :=
  decode_iff_matches (by decide) w

theorem decode_leftShift_iff (w : Word) : decode w = some .leftShift ↔ w &&& 0xF00F = 0x800E :=
  decode_iff_matches (by decide) w

theorem decode_getKey_iff (w : Word) : decode w = some .getKey ↔ w &&& 0xF0FF = 0xF00A :=
  decode_iff_matches (by decide) w

theorem decode_draw_iff (w : Word) : decode w = some .draw ↔ w &&& 0xF000 = 0xD000 :=
  decode_iff_matches (by decide) w

theorem decode_binaryCodedDecimal_iff (w : Word) :
    decode w = some .binaryCodedDecimal ↔ w &&& 0xF0FF = 0xF033 :=
  decode_iff_matches (by decide) w

theorem decode_store_iff (w : Word) : decode w = some .store ↔ w &&& 0xF0FF = 0xF055 :=
  decode_iff_matches (by decide) w

theorem decode_load_iff (w : Word) : decode w = some .load ↔ w &&& 0xF0FF = 0xF065 :=
  decode_iff_matches (by decide) w

end Chip8.Opcode
