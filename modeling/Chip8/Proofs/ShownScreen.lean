import Chip8.Terminal.Picture
import Mathlib.Data.List.DropRight
import Mathlib.Data.List.Induction

/-!
# The screen in the picture

The box around the screen stands at the top of the picture, centred if the terminal is wider than
the box.  A pixel of the screen is shown below the upper border and to the right of the left one, as
far as the box is wide enough, and nothing else of the session has a part in it: not the title,
which is kept to the upper border, nor a fault or the status, which stand in the box below.

A terminal does not tell blanks at the end of a row from nothing.  So the picture is read with the
blanks at the ends of its rows left out, and a place behind the end counts as a blank.  If the box
is complete, the screen can be read back from it.

## Main definitions

* `Picture.texts` — the rows without the blanks at their ends

## Main statements

* `getD_rdropWhile` — leaving out blanks at the end changes no character
* `Box.getElem?_line`, `Box.getElem?_rows` — the places in a box
* `picture_shows_screen` — every pixel at its place, and the screen read back
-/

namespace Chip8

/-- A list from whose end blanks are left out has the same items, if what is not there counts as a
blank. -/
theorem getD_rdropWhile {α : Type} [DecidableEq α] (blank : α) (l : List α) (i : Nat) :
    ((l.rdropWhile (· = blank))[i]?).getD blank = (l[i]?).getD blank := by
  induction l using List.reverseRecOn with
  | nil => rfl
  | append_singleton l last ih =>
      by_cases left : last = blank
      · rw [List.rdropWhile_concat_pos _ _ _ (by simpa using left), ih, left]
        by_cases before : i < l.length
        · rw [List.getElem?_append_left before]
        · have behind : l.length ≤ i := Nat.le_of_not_lt before
          rw [List.getElem?_append_right behind, List.getElem?_eq_none behind]
          cases i - l.length <;> rfl
      · rw [List.rdropWhile_concat_neg _ _ _ (by simpa using left)]

/-- The rows as texts, without the blanks at their ends. -/
def Picture.texts (p : Picture) : List (List Char) :=
  p.rows.map (List.rdropWhile (· = ' '))

/-! ## Places in a box -/

namespace Box

theorem getElem?_fit {columns i : Nat} (inside : i < columns) (text : List Char) :
    (fit columns text)[i]? = some ((text[i]?).getD ' ') := by
  rw [fit]
  by_cases before : i < text.length
  · rw [List.getElem?_append_left (by rw [List.length_take]; omega), List.getElem?_take,
      if_pos inside, List.getElem?_eq_getElem before, Option.getD_some]
  · have behind : text.length ≤ i := Nat.le_of_not_lt before
    have taken : (text.take columns).length = text.length := by
      rw [List.length_take]
      omega
    rw [List.getElem?_append_right (by rwa [taken]), taken, List.getElem?_replicate,
      if_pos (by omega), List.getElem?_eq_none behind, Option.getD_none]

/-- Between the borders stands the text, and blanks behind its end. -/
theorem getElem?_line {inner i : Nat} (inside : i < inner) (text : List Char) :
    (line inner text)[i + 1]? = some ((text[i]?).getD ' ') := by
  have length : i < (fit inner text).length := by
    rw [fit, List.length_append, List.length_take, List.length_replicate]
    omega
  rw [line, List.cons_append, List.getElem?_cons_succ, List.getElem?_append_left length,
    getElem?_fit inside]

/-- The lines of text stand below the upper border. -/
theorem getElem?_rows (width : Nat) (title : List Char) (text : List (List Char)) {i : Nat}
    (inside : i < text.length) :
    (rows width title text)[i + 1]? = (text[i]?).map (line (width - 2)) := by
  have length : i < (text.map (line (width - 2))).length := by
    rwa [List.length_map]
  rw [rows, List.cons_append, List.getElem?_cons_succ, List.getElem?_append_left length,
    List.getElem?_map]

theorem length_rows (width : Nat) (title : List Char) (text : List (List Char)) :
    (rows width title text).length = text.length + 2 := by
  simp [rows]

end Box

namespace Session

/-! ## Pixels -/

theorem pixelChar_inj {lit other : Bool} (same : pixelChar lit = pixelChar other) :
    lit = other := by
  revert lit other
  decide

theorem getElem?_screenLine (s : Session) (y : Nat) {x : Nat} (inside : x < Screen.width) :
    (s.screenLine y)[x]? = some (pixelChar (s.machine.screen.pixel x y)) := by
  rw [screenLine, List.getElem?_map, List.getElem?_range inside, Option.map_some]

theorem getElem?_screenLines (s : Session) {y : Nat} (inside : y < Screen.height) :
    s.screenLines[y]? = some (s.screenLine y) := by
  rw [screenLines, List.getElem?_map, List.getElem?_range inside, Option.map_some]

/-- The picture begins with the box around the screen, at its distance from the left. -/
theorem rows_draw (s : Session) (width height : Nat) (title : String) :
    ∃ rest, (s.draw width height title).rows =
      (Box.rows (min width screenBoxWidth) title.toList s.screenLines).map
        (List.replicate (screenLeft width) ' ' ++ ·) ++ rest := by
  simp only [draw, List.append_assoc]
  exact ⟨_, rfl⟩

/-- Below its upper border stand the rows of the screen. -/
theorem getElem?_rows_draw (s : Session) (width height : Nat) (title : String) {y : Nat}
    (inside : y < Screen.height) :
    (s.draw width height title).rows[y + 1]? =
      some (List.replicate (screenLeft width) ' ' ++
        Box.line (min width screenBoxWidth - 2) (s.screenLine y)) := by
  obtain ⟨rest, rows⟩ := s.rows_draw width height title
  have lines : s.screenLines.length = Screen.height := by
    rw [screenLines, List.length_map, List.length_range]
  have inBox : y + 1 < ((Box.rows (min width screenBoxWidth) title.toList s.screenLines).map
      (List.replicate (screenLeft width) ' ' ++ ·)).length := by
    rw [List.length_map, Box.length_rows, lines]
    omega
  rw [rows, List.getElem?_append_left inBox, List.getElem?_map,
    Box.getElem?_rows _ _ _ (by rwa [lines]), getElem?_screenLines s inside]
  rfl

theorem getElem?_texts_draw (s : Session) (width height : Nat) (title : String) {y : Nat}
    (inside : y < Screen.height) :
    (s.draw width height title).texts[1 + y]? =
      some ((List.replicate (screenLeft width) ' ' ++
        Box.line (min width screenBoxWidth - 2) (s.screenLine y)).rdropWhile (· = ' ')) := by
  rw [Picture.texts, Nat.add_comm, List.getElem?_map,
    s.getElem?_rows_draw width height title inside, Option.map_some]

/-- A pixel that has room in the box is shown behind the left border. -/
theorem getD_screenText (s : Session) (width : Nat) (y : Nat) {x : Nat}
    (inRow : x < min 64 (width - 2)) :
    (((List.replicate (screenLeft width) ' ' ++ Box.line (min width screenBoxWidth - 2)
      (s.screenLine y)).rdropWhile (· = ' '))[screenLeft width + 1 + x]?).getD ' ' =
        pixelChar (s.machine.screen.pixel x y) := by
  have onScreen : x < Screen.width := Nat.lt_of_lt_of_le inRow (Nat.min_le_left _ _)
  have inBox : x < min width screenBoxWidth - 2 := by
    simp only [screenBoxWidth, Screen.width]
    omega
  have place : screenLeft width + 1 + x =
      (List.replicate (screenLeft width) ' ').length + (x + 1) := by
    rw [List.length_replicate]
    omega
  rw [getD_rdropWhile, place, List.getElem?_append_right (Nat.le_add_right _ _),
    Nat.add_sub_cancel_left, Box.getElem?_line inBox, Option.getD_some,
    getElem?_screenLine s y onScreen, Option.getD_some]

/-- The box is centred if there is more room than it needs. -/
theorem screenLeft_eq (width : Nat) :
    screenLeft width = if 66 < width then (width - 66) / 2 else 0 := by
  rw [screenLeft, screenBoxWidth]
  simp only [Screen.width]
  split <;> omega

/-- **The picture shows the screen.**  Whatever the session and the title are, the pixel in column
`x` and row `y` of the screen is shown in the row `1 + y` of the picture, `1 + x` columns to the
right of the left end of its box, as far as the box is wide enough: a full block if it is lit and a
blank otherwise, where a place behind the end of a row counts as a blank.  The box is centred on a
terminal of more than 66 columns and begins at the left end otherwise.

So on a terminal of at least 66 columns, where the box is complete, the picture determines the
screen: two sessions that are shown by the same rows have the same screen, even under different
titles, and whatever their faults and the states of their machines are. -/
theorem picture_shows_screen (s : Session) (title : String) (width height : Nat) :
    let left := if 66 < width then (width - 66) / 2 else 0
    (∀ y < 32, ∀ x < min 64 (width - 2), ∃ row,
      (s.draw width height title).texts[1 + y]? = some row ∧
      (row[left + 1 + x]?).getD ' ' = if s.machine.screen.pixel x y then '█' else ' ') ∧
    (66 ≤ width → ∀ (t : Session) (other : String) (tall : Nat),
      (t.draw width tall other).texts = (s.draw width height title).texts →
        t.machine.screen = s.machine.screen) := by
  rw [← screenLeft_eq]
  refine ⟨?_, ?_⟩
  · intro y inside x inRow
    exact ⟨_, s.getElem?_texts_draw width height title inside, s.getD_screenText width y inRow⟩
  · intro wide t other tall same
    refine Screen.eq_of_pixel fun x y ⟨column, row⟩ => ?_
    have inRow : x < min 64 (width - 2) := by
      simp only [Screen.width] at column
      omega
    -- both pixels are read at the same place of the same row
    have texts := t.getElem?_texts_draw width tall other row
    rw [same, s.getElem?_texts_draw width height title row] at texts
    have shown := t.getD_screenText width y inRow
    rw [← Option.some.inj texts, s.getD_screenText width y inRow] at shown
    exact (pixelChar_inj shown).symm

/-- The last four pixels of the first row are lit.  On a terminal of 80 columns they are shown up to
the column 71, and on one of 40 columns they have no room.  A return address on the call stack is
not shown, so another session with one is shown by the same rows; a session with a blank screen is
not, whatever its title is. -/
theorem upper_right_corner_lit :
    let s : Session := { Session.new ⟨fun _ => 0, 0⟩ with
      machine := { Machine.powerOn with screen := (Screen.blank.draw 60 0 [0xF0]).1 } }
    let t : Session := { s with machine := { s.machine with stack := [0x202] }, frame := 7 }
    (∃ row, (s.draw 80 44 "corner").texts[1]? = some row ∧ (row[71]?).getD ' ' = '█') ∧
    (∃ row, (s.draw 40 50 "a\nb").texts[1]? = some row ∧ (row[38]?).getD ' ' = ' ') ∧
    (t.draw 66 44 "corner").texts = (s.draw 66 44 "corner").texts ∧
    t.machine.screen = s.machine.screen ∧
    ((Session.new ⟨fun _ => 0, 0⟩).draw 66 44 "blank").texts ≠ (s.draw 66 44 "corner").texts := by
  intro s t
  obtain ⟨lit, unlit⟩ : s.machine.screen.pixel 63 0 = true ∧
      s.machine.screen.pixel 37 0 = false := by decide +kernel
  obtain ⟨wide, -⟩ := picture_shows_screen s "corner" 80 44
  obtain ⟨narrow, -⟩ := picture_shows_screen s "a\nb" 40 50
  obtain ⟨-, readBack⟩ := picture_shows_screen s "corner" 66 44
  obtain ⟨row, shown, last⟩ := wide 0 (by decide) 63 (by decide)
  obtain ⟨cut, cutShown, blank⟩ := narrow 0 (by decide) 37 (by decide)
  rw [lit] at last
  rw [unlit] at blank
  have same : (t.draw 66 44 "corner").texts = (s.draw 66 44 "corner").texts := rfl
  refine ⟨⟨row, shown, last⟩, ⟨cut, cutShown, blank⟩, same, ?_, ?_⟩
  · exact readBack (by decide) t "corner" 44 same
  · intro alike
    have screen : Screen.blank = s.machine.screen := readBack (by decide) _ "blank" 44 alike
    rw [← screen, Screen.pixel_blank] at lit
    cases lit

end Session

end Chip8
