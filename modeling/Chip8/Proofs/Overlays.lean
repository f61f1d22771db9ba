import Chip8.Proofs.Drawing

/-!
# Sprites over each other

A sprite inverts the pixels under its set bits.  So however many sprites are drawn, and wherever
they overlap or are cut off, in the end a pixel has changed exactly if an odd number of them covers
it.  The order of the sprites has no part in that, and if every sprite comes twice, no pixel has
changed at all.

The collisions do depend on the order, since a pixel may be lit by one sprite and turned off by
another.  But of the same sprite twice in a row each pixel it covers is turned off by exactly one
of the two.

## Main definitions

* `Sprite.Placed` — a sprite with its place
* `Screen.drawAll` — drawing sprites one after the other

## Main statements

* `pixel_drawAll` — what sprites leave, pixel by pixel
* `drawAll_perm`, `drawAll_drawAll` — their order is of no importance, and twice is not at all
* `hit_redraw_iff` — the collision when a sprite is drawn again
* `drawing_commutes_and_undoes_itself` — all of it
-/

namespace Chip8

/-- A sprite with the place of its top left corner. -/
structure Sprite.Placed where
  x : Nat
  y : Nat
  rows : List UInt8
deriving DecidableEq, Repr

/-- Whether the sprite has a set bit over the pixel `(px, py)`. -/
def Sprite.Placed.covers (sprite : Placed) (px py : Nat) : Bool :=
  Sprite.covers sprite.x sprite.y sprite.rows px py

namespace Screen

/-! ## Many sprites -/

/-- Draws sprites one after the other. -/
def drawAll (s : Screen) (sprites : List Sprite.Placed) : Screen :=
  sprites.foldl (fun screen sprite => (screen.draw sprite.x sprite.y sprite.rows).1) s

theorem drawAll_append (s : Screen) (first second : List Sprite.Placed) :
    s.drawAll (first ++ second) = (s.drawAll first).drawAll second :=
  List.foldl_append

/-- Sprites invert the pixels that an odd number of them covers. -/
theorem pixel_drawAll (s : Screen) (sprites : List Sprite.Placed) {px py : Nat}
    (on : OnGrid px py) :
    (s.drawAll sprites).pixel px py =
      (s.pixel px py ^^ decide ((sprites.countP fun sprite => sprite.covers px py) % 2 = 1)) := by
  induction sprites generalizing s with
  | nil => simp [drawAll]
  | cons sprite rest ih =>
      have drawn := (draw_overlaid s sprite.x sprite.y sprite.rows).pixel px py on.1 on.2
      change (drawAll (s.draw sprite.x sprite.y sprite.rows).1 rest).pixel px py = _
      rw [ih, drawn, List.countP_cons, Bool.xor_assoc]
      congr 1
      -- one more sprite over the pixel turns an even number into an odd one and back
      change (sprite.covers px py ^^ _) = _
      rcases Nat.mod_two_eq_zero_or_one (rest.countP fun later => later.covers px py) with
          even | odd
      · cases sprite.covers px py <;> simp [Nat.add_mod, even]
      · cases sprite.covers px py <;> simp [Nat.add_mod, odd]

/-- The order of the sprites has no part in what they leave. -/
theorem drawAll_perm {sprites others : List Sprite.Placed} (same : sprites.Perm others)
    (s : Screen) : s.drawAll sprites = s.drawAll others := by
  apply eq_of_pixel
  intro px py on
  rw [pixel_drawAll s sprites on, pixel_drawAll s others on, same.countP_eq]

/-- Drawing the same sprites again restores the screen. -/
theorem drawAll_drawAll {sprites others : List Sprite.Placed} (same : sprites.Perm others)
    (s : Screen) : (s.drawAll sprites).drawAll others = s := by
  apply eq_of_pixel
  intro px py on
  have even : ¬ ((sprites ++ others).countP fun sprite => sprite.covers px py) % 2 = 1 := by
    rw [List.countP_append, same.countP_eq]
    omega
  rw [← drawAll_append, pixel_drawAll s _ on, decide_eq_false even, Bool.xor_false]

/-! ## One sprite twice -/

/-- When a sprite is drawn again, it meets the pixels that were dark before. -/
theorem hit_redraw_iff (s : Screen) (x y : Nat) (rows : List UInt8) :
    ((s.draw x y rows).1.draw x y rows).2 = true ↔
      ∃ px py, px < 64 ∧ py < 32 ∧ s.pixel px py = false ∧
        Sprite.covers x y rows px py = true := by
  rw [(draw_overlaid _ x y rows).collision]
  have lit_iff (px py : Nat) (column : px < 64) (row : py < 32)
      (covered : Sprite.covers x y rows px py = true) :
      (s.draw x y rows).1.pixel px py = true ↔ s.pixel px py = false := by
    rw [(draw_overlaid s x y rows).pixel px py column row, covered, Bool.xor_true,
      Bool.not_eq_true']
  constructor
  · rintro ⟨px, py, column, row, lit, covered⟩
    exact ⟨px, py, column, row, (lit_iff px py column row covered).mp lit, covered⟩
  · rintro ⟨px, py, column, row, dark, covered⟩
    exact ⟨px, py, column, row, (lit_iff px py column row covered).mpr dark, covered⟩

/-- Of two draws of one sprite at least one meets a lit pixel, if the sprite shows at all. -/
theorem hit_or_hit_redraw_iff (s : Screen) (x y : Nat) (rows : List UInt8) :
    (s.draw x y rows).2 = true ∨ ((s.draw x y rows).1.draw x y rows).2 = true ↔
      ∃ px py, px < 64 ∧ py < 32 ∧ Sprite.covers x y rows px py = true := by
  rw [hit_redraw_iff, (draw_overlaid s x y rows).collision]
  constructor
  · rintro (⟨px, py, column, row, -, covered⟩ | ⟨px, py, column, row, -, covered⟩)
    · exact ⟨px, py, column, row, covered⟩
    · exact ⟨px, py, column, row, covered⟩
  · rintro ⟨px, py, column, row, covered⟩
    cases shown : s.pixel px py with
    | true => exact .inl ⟨px, py, column, row, shown, covered⟩
    | false => exact .inr ⟨px, py, column, row, shown, covered⟩

/-- A sprite meets nothing on a blank screen. -/
theorem hit_draw_blank (x y : Nat) (rows : List UInt8) : (blank.draw x y rows).2 = false := by
  rw [Bool.eq_false_iff]
  intro hit
  obtain ⟨px, py, -, -, lit, -⟩ := (draw_overlaid blank x y rows).collision.mp hit
  rw [pixel_blank] at lit
  cases lit

/-- **Drawing commutes and undoes itself.**  Sprites of any size, at any places, leave the same
screen in every order, and if they are drawn again in any order, the screen is as it was.  Of one
sprite drawn twice in a row, at least one of the two draws reports a collision exactly if the sprite
has a set bit over the grid.  On a blank screen this is always the second one. -/
theorem drawing_commutes_and_undoes_itself :
    (∀ (s : Screen) (sprites others : List Sprite.Placed), sprites.Perm others →
      s.drawAll sprites = s.drawAll others ∧ (s.drawAll sprites).drawAll others = s) ∧
    (∀ (s : Screen) (x y : Nat) (rows : List UInt8),
      let first := s.draw x y rows
      let second := first.1.draw x y rows
      first.2 = true ∨ second.2 = true ↔
        ∃ px py, px < 64 ∧ py < 32 ∧ Sprite.covers x y rows px py = true) ∧
    ∀ (x y : Nat) (rows : List UInt8),
      let first := blank.draw x y rows
      let second := first.1.draw x y rows
      first.2 = false ∧
      (second.2 = true ↔ ∃ px py, px < 64 ∧ py < 32 ∧ Sprite.covers x y rows px py = true) := by
  refine ⟨?_, hit_or_hit_redraw_iff, ?_⟩
  · intro s sprites others same
    exact ⟨drawAll_perm same s, drawAll_drawAll same s⟩
  · intro x y rows first second
    have never : first.2 = false := hit_draw_blank x y rows
    have either := hit_or_hit_redraw_iff blank x y rows
    refine ⟨never, ?_⟩
    rwa [hit_draw_blank, Bool.false_eq_true, false_or] at either

/-- Two sprites overlap in the lower right corner, where both are cut off and a pixel is lit.  In
either order they light a pixel that one of them covers, leave one that both cover dark, and turn
off the lit one; drawn again in the other order, they bring the screen back. -/
theorem overlapping_sprites_at_corner :
    let s := blank.set 63 31 true
    let sprites : List Sprite.Placed := [⟨62, 30, [0xF0, 0x90, 0x90]⟩, ⟨60, 31, [0xFF]⟩]
    let others : List Sprite.Placed := [⟨60, 31, [0xFF]⟩, ⟨62, 30, [0xF0, 0x90, 0x90]⟩]
    sprites.Perm others ∧
    ((s.drawAll sprites).pixel 60 31 = true ∧ (s.drawAll sprites).pixel 62 31 = false ∧
      (s.drawAll sprites).pixel 63 31 = false) ∧
    s.drawAll sprites = s.drawAll others ∧ (s.drawAll sprites).drawAll others = s := by
  intro s sprites others
  have same : sprites.Perm others := .swap _ _ []
  refine ⟨same, by decide +kernel, ?_⟩
  exact drawing_commutes_and_undoes_itself.1 s sprites others same

end Screen

end Chip8
