import Chip8.Proofs.Drawing
import Chip8.Proofs.Footprint
import Chip8.Proofs.Restart

/-!
# Glyphs

The digit sprites stand below the address 80.  Nothing protects them there, but only `FX33` and
`FX55` write to memory, and they write at the index or behind it.  So a program that never does this
with an index below 80 keeps the font, whatever else it does.  Then `FX29` points at the sprite of a
digit, which is inside the memory for every content of `VX`, and `DXY5` draws it.

## Main definitions

* `Memory.glyph` — the rows of a digit
* `Machine.HoldsFont` — the font is in place
* `Machine.Begun` — a state from which a program starts, with the font in place
* `Machine.SparesFont` — an operation does not write to memory from an index below 80 on

## Main statements

* `exists_runs_of_written` — what writes to memory
* `holdsFont_apply`, `holdsFont_after` — the font stays
* `HoldsFont.bytesAtIndex` — where the rows of a digit are found
* `glyphs_stay_drawable` — both: the font stays, and its digits can be drawn
-/

namespace Chip8

/-- The rows of the sprite of a digit: of the rows of the font, five for every digit, those behind
the rows of the smaller digits. -/
def Memory.glyph (digit : Nat) : List UInt8 :=
  (font.drop (5 * digit)).take 5

/-- A word `DXY5` draws five rows. -/
theorem Word.n_eq_five {w : Word} (word : w &&& 0xF00F = 0xD005) : w.n = 5 := by
  have nibble : w &&& 0x000F = 5 := by
    calc w &&& 0x000F = w &&& 0xF00F &&& 0x000F := by rw [UInt16.and_assoc]; rfl
      _ = 5 := by rw [word]; rfl
  have value := congrArg UInt16.toNat nibble
  rw [UInt16.toNat_and] at value
  exact (Nat.and_two_pow_sub_one_eq_mod w.toNat 4).symm.trans value

namespace Machine

variable {m : Machine} {operation : Operation}

/-! ## What writes to memory -/

/-- An instruction that writes to memory is `FX33` or `FX55`, and writes behind the index. -/
theorem word_of_written {opcode : Opcode} {w : Word} {byte : UInt8} {a : Nat}
    (family : Opcode.decode w = some opcode)
    (written : (m.performed opcode w byte).memory.byte a ≠ m.memory.byte a) :
    (w &&& 0xF0FF = 0xF033 ∨ w &&& 0xF0FF = 0xF055) ∧ m.index.toNat ≤ a := by
  obtain ⟨rfl, low, -⟩ | ⟨rfl, low, -⟩ := byte_performed written
  · exact ⟨.inl ((Opcode.decode_binaryCodedDecimal_iff w).mp family), low⟩
  · exact ⟨.inr ((Opcode.decode_store_iff w).mp family), low⟩

/-- If memory is not written from outside and the machine does not start over, only `FX33` and
`FX55` change a byte, and the byte is behind the index. -/
theorem exists_runs_of_written {a : Nat} (inside : operation.isPoke = false)
    (goesOn : operation.isRestart = false)
    (written : (m.apply operation).state.memory.byte a ≠ m.memory.byte a) :
    ∃ w, m.Runs operation w ∧ (w &&& 0xF0FF = 0xF033 ∨ w &&& 0xF0FF = 0xF055) ∧
      m.index.toNat ≤ a := by
  cases operation with
  | step byte =>
      change (m.step byte).state.memory.byte a ≠ _ at written
      cases m.cycle byte with
      | executed w opcode next ready fetch nonzero family effect reply =>
          obtain ⟨-, rfl⟩ := perform_eq_ok_iff.mp effect
          rw [reply] at written
          -- where the program counter stands has no part in what is written
          have word := word_of_written (m := { m with pc := m.pc + 2 }) family written
          exact ⟨w, .step ready fetch byte, word⟩
      | refused w opcode e left ready fetch nonzero family effect reply =>
          obtain ⟨-, rfl⟩ := perform_eq_error_iff.mp effect
          rw [reply] at written
          exact absurd rfl written
      | halted before reply | waiting _ _ before reply | unfetched _ ready before reply
      | ended ready before reply | unknown _ ready _ _ before reply =>
          rw [reply] at written
          exact absurd rfl written
  | execute w byte =>
      change (m.execute w byte).state.memory.byte a ≠ _ at written
      cases family : Opcode.decode w with
      | none =>
          rw [execute_of_unknown family] at written
          exact absurd rfl written
      | some opcode =>
          cases refused : m.refusal opcode w with
          | none =>
              rw [execute_of_accepted family refused] at written
              exact ⟨w, .execute w byte, word_of_written family written⟩
          | some e =>
              rw [execute_of_refused family refused] at written
              exact absurd rfl written
  | keyDown k => exact absurd (congrArg (·.memory.byte a) (keyDown_state m k)) written
  | clock | keyUp k | setRegister r value | setMode mode => exact absurd rfl written
  | reset clearMemory | load image => cases goesOn
  | poke start bytes => cases inside

/-! ## The font stays -/

/-- The sprites of the digits stand at the lowest addresses. -/
def HoldsFont (m : Machine) : Prop :=
  ∀ a < 80, some (m.memory.byte a) = Memory.font[a]?

/-- A state from which a program starts: at power-on, after a reset that clears the memory, or after
a program has been loaded. -/
inductive Begun : Machine → Prop
  | powerOn : Begun powerOn
  | reset (m : Machine) : Begun (m.reset true).state
  | load (m : Machine) (image : List UInt8) : Begun (m.load image).state

/-- If the operation executes `FX33` or `FX55`, the index is not below 80. -/
def SparesFont (m : Machine) (operation : Operation) : Prop :=
  ∀ w, m.Runs operation w → w &&& 0xF0FF = 0xF033 ∨ w &&& 0xF0FF = 0xF055 → 80 ≤ m.index.toNat

/-- An operation executes nothing that writes below the index. -/
theorem sparesFont_of_le_index (behind : 80 ≤ m.index.toNat) (operation : Operation) :
    m.SparesFont operation :=
  fun _ _ _ => behind

theorem sparesFont_setRegister (m : Machine) (r : Register) (value : UInt8) :
    m.SparesFont (.setRegister r value) := by
  intro w runs
  cases runs

/-- A step that fetches another word than `FX33` or `FX55` writes nothing. -/
theorem sparesFont_of_nextWord {w : Word} (fetch : m.nextWord = .ok w)
    (other : ¬ (w &&& 0xF0FF = 0xF033 ∨ w &&& 0xF0FF = 0xF055)) (byte : UInt8) :
    m.SparesFont (.step byte) := by
  intro v runs word
  cases runs with
  | step ready same byte =>
      obtain rfl := Except.ok.inj (fetch.symm.trans same)
      exact absurd word other

theorem HoldsFont.congr {n : Machine} (font : m.HoldsFont) (memory : n.memory = m.memory) :
    n.HoldsFont := by
  rwa [HoldsFont, memory]

theorem holdsFont_load (m : Machine) (image : List UInt8) : (m.load image).state.HoldsFont :=
  (holds_load m image).font

theorem holdsFont_powerOn : powerOn.HoldsFont := by
  intro a low
  have inFont : a < Memory.font.length := low
  change some (Memory.zeroed.withFont.byte a) = _
  rw [Memory.byte_withFont, List.getElem?_eq_getElem inFont, Option.getD_some]

theorem Begun.holdsFont (begun : Begun m) : m.HoldsFont := by
  cases begun with
  | powerOn => exact holdsFont_powerOn
  | reset before => exact holdsFont_powerOn.congr (memory_afterReset_true before)
  | load before image => exact holdsFont_load before image

/-- An operation that writes neither from outside nor below 80 keeps the font. -/
theorem holdsFont_apply (font : m.HoldsFont) (inside : operation.isPoke = false)
    (spared : m.SparesFont operation) : (m.apply operation).state.HoldsFont := by
  cases restart : operation.isRestart with
  | true =>
      cases operation with
      | reset clearMemory =>
          cases clearMemory with
          | true => exact holdsFont_powerOn.congr (memory_afterReset_true m)
          | false => exact font.congr (memory_afterReset_false m)
      | load image => exact holdsFont_load m image
      | _ => cases restart
  | false =>
      intro a low
      have kept : (m.apply operation).state.memory.byte a = m.memory.byte a := by
        by_contra written
        obtain ⟨w, runs, word, behind⟩ := exists_runs_of_written inside restart written
        have := spared w runs word
        omega
      rw [kept]
      exact font a low

/-- The font stays in a run whose operations all keep it. -/
theorem holdsFont_after {operations : List Operation} (font : m.HoldsFont)
    (inside : ∀ operation ∈ operations, operation.isPoke = false)
    (spared : ∀ moment ∈ m.history operations, moment.before.SparesFont moment.operation) :
    (m.after operations).HoldsFont := by
  induction operations generalizing m with
  | nil => exact font
  | cons operation rest ih =>
      obtain ⟨first, others⟩ := List.forall_mem_cons.mp inside
      obtain ⟨now, later⟩ := List.forall_mem_cons.mp spared
      exact ih (holdsFont_apply font first now) others later

/-! ## Drawing a digit -/

/-- The rows of a digit are found at its address. -/
theorem HoldsFont.bytesAtIndex (font : m.HoldsFont) {digit : Nat} (isDigit : digit < 16)
    (index : m.index.toNat = Memory.glyphAddress digit) :
    m.bytesAtIndex 5 = Memory.glyph digit := by
  apply List.ext_getElem?
  intro i
  rw [Machine.bytesAtIndex, Memory.glyph, List.getElem?_map, List.getElem?_take,
    List.getElem?_drop, index]
  by_cases inGlyph : i < 5
  · have low : 5 * digit + i < 80 := by omega
    have address : Memory.glyphAddress digit = 5 * digit := Nat.mul_comm digit 5
    rw [List.getElem?_range inGlyph, Option.map_some, if_pos inGlyph, address, font _ low]
  · rw [List.getElem?_eq_none (by rw [List.length_range]; omega), Option.map_none,
      if_neg inGlyph]

/-- `FX29` points at the digit in the lower nibble of `VX`. -/
theorem Runs.pointed {w : Word} (runs : m.Runs operation w) (word : w &&& 0xF0FF = 0xF029) :
    (m.apply operation).result = some (.ok (.executed .fontChar)) ∧
    (m.apply operation).state.index.toNat = Memory.glyphAddress ((m.vx w).toNat % 16) ∧
    (m.apply operation).state.memory = m.memory ∧
    (m.apply operation).state.registers = m.registers ∧
    (m.apply operation).state.screen = m.screen := by
  have family : Opcode.decode w = some .fontChar :=
    (Opcode.decode_iff_matches (by decide) w).mpr word
  obtain ⟨pc, byte, reply⟩ := runs.apply_of_accepted (by decide) family rfl
  rw [reply]
  refine ⟨rfl, ?_, rfl, rfl, rfl⟩
  -- the last digit starts at 75, so the address is no larger than the index can be
  change (UInt16.ofNat (Memory.glyphAddress ((m.vx w).toNat % 16))).toNat = _
  rw [UInt16.toNat_ofNat', Memory.glyphAddress, Memory.glyphHeight]
  omega

/-- `DXY5` lays the five rows at the index over the screen. -/
theorem Runs.drawn {w : Word} (runs : m.Runs operation w) (word : w &&& 0xF00F = 0xD005)
    (inside : m.index.toNat + 5 ≤ 4096) :
    (m.apply operation).result = some (.ok (.executed .draw)) ∧
    ∃ hit, m.screen.Overlaid (m.vx w).toNat (m.vy w).toNat (m.bytesAtIndex 5)
        (m.apply operation).state.screen hit ∧
      (m.apply operation).state.registers =
        m.registers.write Register.flag (if hit then 1 else 0) := by
  have rows := Word.n_eq_five word
  have draws : w &&& 0xF000 = 0xD000 := by
    calc w &&& 0xF000 = w &&& 0xF00F &&& 0xF000 := by rw [UInt16.and_assoc]; rfl
      _ = 0xD000 := by rw [word]; rfl
  have family := (Opcode.decode_draw_iff w).mpr draws
  have accepted : m.refusal .draw w = none :=
    rangeRefusal_eq_none_iff.mpr (by rw [rows]; exact inside)
  obtain ⟨pc, byte, reply⟩ := runs.apply_of_accepted (by decide) family accepted
  rw [reply, ← rows]
  exact ⟨rfl, _, Screen.draw_overlaid _ _ _ _, rfl⟩

/-- **Glyphs stay drawable.**  Take any run from power-on, from a reset that clears the memory or
from a program that was loaded, in which memory is not written from outside and every `FX33` and
`FX55` finds the index at 80 or above.  Then the font is in place.  So with any content of `VX`,
`FX29` and then `DXY5` do not fail, and they lay the five rows of the digit in the lower nibble of
`VX` over the screen. -/
theorem glyphs_stay_drawable {start : Machine} (begun : Begun start) (operations : List Operation)
    (inside : ∀ operation ∈ operations, operation.isPoke = false)
    (spared : ∀ moment ∈ start.history operations, moment.before.SparesFont moment.operation) :
    let m := start.after operations
    (∀ a < 80, some (m.memory.byte a) = Memory.font[a]?) ∧
    ∀ (point draw : Operation) (u v : Word),
      m.Runs point u → u &&& 0xF0FF = 0xF029 →
      (m.apply point).state.Runs draw v → v &&& 0xF00F = 0xD005 →
      let pointed := m.apply point
      let drawn := pointed.state.apply draw
      pointed.result = some (.ok (.executed .fontChar)) ∧
      drawn.result = some (.ok (.executed .draw)) ∧
      ∃ hit, m.screen.Overlaid (m.vx v).toNat (m.vy v).toNat
          (Memory.glyph ((m.vx u).toNat % 16)) drawn.state.screen hit ∧
        drawn.state.registers = m.registers.write Register.flag (if hit then 1 else 0) := by
  intro m
  have font : m.HoldsFont := holdsFont_after begun.holdsFont inside spared
  refine ⟨font, ?_⟩
  intro point draw u v points digit draws sprite pointed drawn
  obtain ⟨done, index, memory, registers, screen⟩ := points.pointed digit
  have isDigit : (m.vx u).toNat % 16 < 16 := Nat.mod_lt _ (by decide)
  have fits : (m.apply point).state.index.toNat + 5 ≤ 4096 := by
    rw [index, Memory.glyphAddress, Memory.glyphHeight]
    omega
  obtain ⟨drew, hit, overlaid, flagged⟩ := draws.drawn sprite fits
  rw [(font.congr memory).bytesAtIndex isDigit index] at overlaid
  simp only [vx, vy, registers, screen] at overlaid flagged
  exact ⟨done, drew, hit, overlaid, flagged⟩

/-- A program writes the digits of 26 right behind the font, and then draws the digit `A`, which is
the lower nibble of 26, so far to the right that only two of its columns are on the grid.  Its last
row is not the one of an `8`, its fourth row not that of a `9` and its third row not that of a `0`,
and none of it goes on at the left border. -/
theorem digit_behind_font_at_border :
    let start := (powerOn.load [0xA0, 0x50, 0xF0, 0x33, 0xF0, 0x29, 0xD1, 0x25]).state
    let operations : List Operation :=
      [.setRegister 0 26, .setRegister 1 62, .setRegister 2 27, .step 0, .step 0]
    let m := start.after operations
    let drawn := ((m.apply (.step 0)).state.apply (.step 0)).state
    (Begun start ∧ (∀ operation ∈ operations, operation.isPoke = false) ∧
      (∀ moment ∈ start.history operations, moment.before.SparesFont moment.operation) ∧
      m.Runs (.step 0) 0xF029 ∧ (m.apply (.step 0)).state.Runs (.step 0) 0xD125) ∧
    m.memory.byte 81 = 2 ∧ some (m.memory.byte 79) = Memory.font[79]? ∧
    [27, 28, 29, 30, 31].map (drawn.screen.pixel 62) = [true, true, true, true, true] ∧
    [27, 28, 29, 30, 31].map (drawn.screen.pixel 63) = [true, false, true, false, false] ∧
    drawn.screen.pixel 0 29 = false := by
  intro start operations m drawn
  have begun : Begun start := .load powerOn _
  have inside : ∀ operation ∈ operations, operation.isPoke = false := by decide
  let rows := [27, 28, 29, 30, 31]
  let covered := Sprite.covers (m.vx 0xD125).toNat (m.vy 0xD125).toNat
    (Memory.glyph ((m.vx 0xF029).toNat % 16))
  obtain ⟨⟨sets, behind⟩, ⟨running, free, points⟩, ⟨goesOn, unlatched, draws⟩, written, left, right,
      apart⟩ :
      ((start.after (operations.take 3)).nextWord = .ok 0xA050 ∧
        80 ≤ (start.after (operations.take 4)).index.toNat) ∧
      (m.halted = false ∧ m.awaiting = none ∧ m.nextWord = .ok 0xF029) ∧
      ((m.apply (.step 0)).state.halted = false ∧ (m.apply (.step 0)).state.awaiting = none ∧
        (m.apply (.step 0)).state.nextWord = .ok 0xD125) ∧
      m.memory.byte 81 = 2 ∧
      rows.map (fun y => m.screen.pixel 62 y ^^ covered 62 y) = [true, true, true, true, true] ∧
      rows.map (fun y => m.screen.pixel 63 y ^^ covered 63 y) =
        [true, false, true, false, false] ∧
      (m.screen.pixel 0 29 ^^ covered 0 29) = false := by decide +kernel
  have spared : ∀ moment ∈ start.history operations,
      moment.before.SparesFont moment.operation := by
    -- the first word that is fetched sets the index, and the second one finds it set
    simp only [operations, history, moment, List.forall_mem_cons]
    exact ⟨sparesFont_setRegister _ _ _, sparesFont_setRegister _ _ _,
      sparesFont_setRegister _ _ _, sparesFont_of_nextWord sets (by decide) 0,
      sparesFont_of_le_index behind (.step 0), List.forall_mem_nil _⟩
  have first : m.Runs (.step 0) 0xF029 := .step ⟨running, free⟩ points 0
  have second : (m.apply (.step 0)).state.Runs (.step 0) 0xD125 :=
    .step ⟨goesOn, unlatched⟩ draws 0
  obtain ⟨font, digits⟩ := glyphs_stay_drawable begun operations inside spared
  obtain ⟨-, -, hit, overlaid, -⟩ := digits _ _ 0xF029 0xD125 first (by decide) second (by decide)
  have onGrid : ∀ y ∈ rows, y < 32 := by decide
  have pixels (x : Nat) (column : x < 64) : rows.map (drawn.screen.pixel x) =
      rows.map fun y => m.screen.pixel x y ^^ covered x y := by
    refine List.map_congr_left fun y mem => ?_
    dsimp only [drawn, covered, m]
    rw [overlaid.pixel x y column (onGrid y mem)]
  refine ⟨⟨begun, inside, spared, first, second⟩, written, font 79 (by decide),
    (pixels 62 (by decide)).trans left, (pixels 63 (by decide)).trans right, ?_⟩
  dsimp only [drawn, m]
  rw [overlaid.pixel 0 29 (by decide) (by decide), apart]

end Machine

end Chip8
