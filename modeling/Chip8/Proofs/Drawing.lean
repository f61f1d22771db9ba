import Chip8.Machine.Control
import Chip8.Proofs.Decoding
import Chip8.Proofs.Outcomes

/-!
# Drawing

A sprite is drawn by inverting pixels one after the other, each on the screen that the ones before
have left.  But no cell of a sprite comes twice: every set bit has its own row and its own column.
So each pixel still shows what it showed at the beginning when its turn comes, and what is left in
the end is the exclusive or of the old screen and the sprite.  Cells outside the grid are no pixels
at all, so nothing comes in again at another edge.

## Main definitions

* `Sprite.covers` — whether a sprite has a set bit over a pixel
* `Screen.Overlaid` — the screen and the collision that a sprite leads to, pixel by pixel

## Main statements

* `Sprite.covers_iff_mem_cells`, `Sprite.nodup_cells` — the cells of a sprite, each once
* `Screen.pixel_toggleAll`, `Screen.hit_toggleAll` — what inverting distinct pixels does
* `Screen.draw_overlaid` — drawing is the exclusive or
* `Machine.drawing_inverts_covered_pixels` — the same of the instruction, which does nothing else
  but set the flag
-/

namespace Chip8

namespace Sprite

/-- Whether a sprite with its top left corner at `(x, y)` has a set bit over the pixel `(px, py)`:
the bit `7 - (px - x)` of its row `py - y`.  Outside the sprite there is none. -/
def covers (x y : Nat) (rows : List UInt8) (px py : Nat) : Bool :=
  if x ≤ px ∧ px ≤ x + 7 ∧ y ≤ py then
    (rows[py - y]?).any fun row => row.toNat.testBit (7 - (px - x))
  else false

theorem covers_iff {x y px py : Nat} {rows : List UInt8} :
    covers x y rows px py = true ↔
      x ≤ px ∧ px ≤ x + 7 ∧ y ≤ py ∧
        ∃ row, rows[py - y]? = some row ∧ row.toNat.testBit (7 - (px - x)) = true := by
  rw [covers]
  split
  · next inside =>
    obtain ⟨left, right, top⟩ := inside
    simp only [Option.any_eq_true, left, right, top, true_and]
  · next outside =>
    constructor
    · exact nofun
    · rintro ⟨left, right, top, -⟩
      exact absurd ⟨left, right, top⟩ outside

/-- The cells of a sprite are the pixels that it covers. -/
theorem covers_iff_mem_cells {x y px py : Nat} {rows : List UInt8} :
    covers x y rows px py = true ↔ (px, py) ∈ cells x y rows := by
  rw [covers_iff, mem_cells_iff]
  constructor
  · rintro ⟨left, right, top, row, here, set⟩
    refine ⟨py - y, row, px - x, here, ?_, by omega, by omega⟩
    rw [bit, set, Bool.and_true, decide_eq_true_eq]
    omega
  · rintro ⟨i, row, column, here, set, rfl, rfl⟩
    rw [bit, Bool.and_eq_true, decide_eq_true_eq] at set
    obtain ⟨inRow, set⟩ := set
    have row_eq : y + i - y = i := Nat.add_sub_cancel_left y i
    have column_eq : x + column - x = column := Nat.add_sub_cancel_left x column
    refine ⟨by omega, by omega, by omega, row, ?_, ?_⟩
    · rwa [row_eq]
    · rwa [column_eq]

theorem nodup_rowCells (x y : Nat) (row : UInt8) : (rowCells x y row).Nodup := by
  have columns : ((List.range 8).filter (bit row)).Nodup := List.nodup_range.filter _
  refine columns.map ?_
  intro a b same
  have := congrArg Prod.fst same
  simp only at this
  omega

/-- No cell of a sprite comes twice. -/
theorem nodup_cells (x y : Nat) (rows : List UInt8) : (cells x y rows).Nodup := by
  induction rows generalizing y with
  | nil => exact List.nodup_nil
  | cons row rest ih =>
      rw [cells]
      refine (nodup_rowCells x y row).append (ih (y + 1)) ?_
      -- the rows that follow stand lower
      rintro ⟨px, py⟩ first later
      obtain ⟨-, -, -, above⟩ := mem_rowCells_iff.mp first
      obtain ⟨i, -, -, -, -, -, below⟩ := mem_cells_iff.mp later
      omega

end Sprite

namespace Screen

/-! ## Inverting distinct pixels -/

theorem pixel_toggle_of_ne {s : Screen} {x y px py : Nat} (apart : (px, py) ≠ (x, y)) :
    (s.toggle x y).pixel px py = s.pixel px py := by
  have elsewhere : ¬ (OnGrid px py ∧ px = x ∧ py = y) := by
    rintro ⟨-, rfl, rfl⟩
    exact apart rfl
  rw [pixel_toggle, decide_eq_false elsewhere, Bool.xor_false]

/-- Inverting distinct pixels inverts those of them that are on the grid, and no others. -/
theorem pixel_toggleAll {cells : List (Nat × Nat)} (distinct : cells.Nodup) (hit : Bool)
    (s : Screen) (px py : Nat) :
    (s.toggleAll hit cells).1.pixel px py =
      (s.pixel px py ^^ decide (OnGrid px py ∧ (px, py) ∈ cells)) := by
  induction cells generalizing hit s with
  | nil => simp [toggleAll]
  | cons cell rest ih =>
      obtain ⟨x, y⟩ := cell
      obtain ⟨once, restDistinct⟩ := List.nodup_cons.mp distinct
      rw [toggleAll, ih restDistinct]
      by_cases here : (px, py) = (x, y)
      · -- this pixel has its turn now, and does not come again
        obtain ⟨rfl, rfl⟩ := Prod.mk.inj here
        simp [pixel_toggle, once]
      · simp only [pixel_toggle_of_ne here, List.mem_cons, here, false_or]

/-- Inverting distinct pixels hits the ones that were lit in the beginning. -/
theorem hit_toggleAll {cells : List (Nat × Nat)} (distinct : cells.Nodup) (hit : Bool)
    (s : Screen) :
    (s.toggleAll hit cells).2 = true ↔
      hit = true ∨ ∃ px py, (px, py) ∈ cells ∧ s.pixel px py = true := by
  induction cells generalizing hit s with
  | nil => simp [toggleAll]
  | cons cell rest ih =>
      obtain ⟨x, y⟩ := cell
      obtain ⟨once, restDistinct⟩ := List.nodup_cons.mp distinct
      -- the pixels that follow have not been touched yet
      have untouched (px py : Nat) (later : (px, py) ∈ rest) :
          (s.toggle x y).pixel px py = s.pixel px py := by
        refine pixel_toggle_of_ne ?_
        rintro same
        rw [same] at later
        exact once later
      rw [toggleAll, ih restDistinct, Bool.or_eq_true, or_assoc]
      refine or_congr_right ?_
      constructor
      · rintro (lit | ⟨px, py, later, lit⟩)
        · exact ⟨x, y, List.mem_cons_self, lit⟩
        · rw [untouched px py later] at lit
          exact ⟨px, py, List.mem_cons_of_mem _ later, lit⟩
      · rintro ⟨px, py, mem, lit⟩
        rcases List.mem_cons.mp mem with same | later
        · obtain ⟨rfl, rfl⟩ := Prod.mk.inj same
          exact .inl lit
        · refine .inr ⟨px, py, later, ?_⟩
          rwa [untouched px py later]

/-! ## Sprites -/

/-- The screen `after` is `s` with a sprite at `(x, y)` laid over it, and `hit` tells whether the
sprite met a lit pixel. -/
structure Overlaid (s : Screen) (x y : Nat) (sprite : List UInt8) (after : Screen) (hit : Bool) :
    Prop where
  /-- Every pixel is the exclusive or of what it was and the bit of the sprite over it. -/
  pixel : ∀ px py, px < 64 → py < 32 →
    after.pixel px py = (s.pixel px py ^^ Sprite.covers x y sprite px py)
  collision : hit = true ↔
    ∃ px py, px < 64 ∧ py < 32 ∧ s.pixel px py = true ∧ Sprite.covers x y sprite px py = true

/-- Drawing a sprite lays it over the screen. -/
theorem draw_overlaid (s : Screen) (x y : Nat) (sprite : List UInt8) :
    s.Overlaid x y sprite (s.draw x y sprite).1 (s.draw x y sprite).2 where
  pixel px py column row := by
    have on : OnGrid px py := ⟨column, row⟩
    rw [draw, pixel_toggleAll (Sprite.nodup_cells x y sprite)]
    have same : decide (OnGrid px py ∧ (px, py) ∈ Sprite.cells x y sprite) =
        Sprite.covers x y sprite px py := by
      rw [Bool.eq_iff_iff, decide_eq_true_eq, Sprite.covers_iff_mem_cells, and_iff_right on]
    rw [same]
  collision := by
    rw [draw, hit_toggleAll (Sprite.nodup_cells x y sprite)]
    constructor
    · rintro (before | ⟨px, py, mem, lit⟩)
      · cases before
      · -- a pixel that is lit is on the grid
        have on : OnGrid px py := by
          by_contra off
          rw [pixel_of_not_onGrid off] at lit
          cases lit
        exact ⟨px, py, on.1, on.2, lit, Sprite.covers_iff_mem_cells.mpr mem⟩
    · rintro ⟨px, py, -, -, lit, covered⟩
      exact .inr ⟨px, py, Sprite.covers_iff_mem_cells.mp covered, lit⟩

end Screen

namespace Machine

/-- **Drawing inverts the pixels under a sprite.**  Drawing a sprite anywhere leaves each pixel as
the exclusive or of what it was and the bit of the sprite over it, and reports a collision exactly
if a lit pixel was covered.  `DXYN` does this with the `N` bytes at `I`, if they are in the memory,
at the place that `VX` and `VY` held before; it puts the collision into `VF` and does nothing else,
and a step that executes it only moves on besides. -/
theorem drawing_inverts_covered_pixels :
    (∀ (s : Screen) (x y : Nat) (sprite : List UInt8),
      s.Overlaid x y sprite (s.draw x y sprite).1 (s.draw x y sprite).2) ∧
    ∀ (m : Machine) (w : Word) (byte : UInt8),
      w &&& 0xF000 = 0xD000 → m.index.toNat + w.n ≤ 4096 →
      ∃ (screen : Screen) (hit : Bool),
        m.screen.Overlaid (m.vx w).toNat (m.vy w).toNat (m.bytesAtIndex w.n) screen hit ∧
        let drawn : Machine := { m with
          screen := screen
          registers := m.registers.write Register.flag (if hit then 1 else 0) }
        m.execute w byte = ⟨.ok (.executed .draw), drawn, [.executing w .draw]⟩ ∧
        (m.Ready → m.nextWord = .ok w →
          m.step byte =
            ⟨.ok (.executed .draw), { drawn with pc := m.pc + 2 }, [.executing w .draw]⟩) := by
  refine ⟨Screen.draw_overlaid, ?_⟩
  intro m w byte word inside
  have family := (Opcode.decode_draw_iff w).mpr word
  have accepted : m.refusal .draw w = none := rangeRefusal_eq_none_iff.mpr inside
  refine ⟨_, _, Screen.draw_overlaid _ _ _ _, execute_of_accepted family accepted byte, ?_⟩
  intro ready fetch
  have nonzero : w ≠ 0 := by
    rintro rfl
    cases word
  exact step_of_accepted ready fetch nonzero family accepted byte

/-- `DF05` with `62` in `VF` and `30` in `V0` draws only the corner of a zero that is left on the
grid.  It covers a lit pixel, which goes out, and so the coordinate in `VF` gives way to the
collision; nothing shows at the opposite corner. -/
theorem clipped_glyph_inverts_corner :
    let m : Machine := { powerOn.poke 512 [0xDF, 0x05] with
      registers := (Registers.zeroed.write Register.flag 62).write 0 30
      screen := Screen.blank.set 63 30 true }
    (0xDF05 : Word) &&& 0xF000 = 0xD000 ∧ m.index.toNat + Word.n 0xDF05 ≤ 4096 ∧
    let drawn := (m.step 0).state
    drawn.registers.read Register.flag = 1 ∧ drawn.screen.pixel 62 30 = true ∧
      drawn.screen.pixel 63 30 = false ∧ drawn.screen.pixel 0 30 = false ∧
      drawn.screen.pixel 62 0 = false := by
  intro m
  have word : (0xDF05 : Word) &&& 0xF000 = 0xD000 := by decide
  have inside : m.index.toNat + Word.n 0xDF05 ≤ 4096 := by decide
  obtain ⟨screen, hit, overlaid, -, step⟩ :=
    drawing_inverts_covered_pixels.2 m 0xDF05 0 word inside
  refine ⟨word, inside, ?_⟩
  rw [step ⟨rfl, rfl⟩ (by decide +kernel)]
  have collision : hit = true := overlaid.collision.mpr
    ⟨63, 30, by decide, by decide, by decide +kernel, by decide +kernel⟩
  refine ⟨?_, ?_, ?_, ?_, ?_⟩
  · simp only [collision, if_true, Registers.read_write_self]
  · exact (overlaid.pixel 62 30 (by decide) (by decide)).trans (by decide +kernel)
  · exact (overlaid.pixel 63 30 (by decide) (by decide)).trans (by decide +kernel)
  · exact (overlaid.pixel 0 30 (by decide) (by decide)).trans (by decide +kernel)
  · exact (overlaid.pixel 62 0 (by decide) (by decide)).trans (by decide +kernel)

end Machine

end Chip8
