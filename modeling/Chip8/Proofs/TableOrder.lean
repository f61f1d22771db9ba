import Chip8.Proofs.Decoding

/-!
# The order of the table

A word is looked up row by row, so what is found is the row it matches that stands first.  Where no
word matches two rows their order cannot matter.  In the instruction table two rows overlap with
another one, `00E0` and `00EE`, both with `0NNN`, which matches every word that begins with a zero.
So any other order of the table finds the same rows if and only if it keeps these two in front of
that one.

## Main definitions

* `Entry.clearScreen`, `Entry.subroutineReturn`, `Entry.machineRoutine` — the rows that overlap

## Main statements

* `lookupIn_eq_some_iff` — what is found is the first row that the word matches
* `eq_or_overlap_of_matches` — the rows of the table that match the same word
* `order_matters_for_routines_alone` — the orders of the table that find the same
-/

namespace Chip8.Opcode

namespace Entry

/-- The row `00E0`. -/
def clearScreen : Entry :=
  .ofText .clearScreen "00E0"

/-- The row `00EE`. -/
def subroutineReturn : Entry :=
  .ofText .subroutineReturn "00EE"

/-- The row `0NNN`. -/
def machineRoutine : Entry :=
  .ofText .machineRoutine "0NNN"

/-- The row is one of the two whose words `0NNN` matches too. -/
def InRoutine (e : Entry) : Prop :=
  e = clearScreen ∨ e = subroutineReturn

instance (e : Entry) : Decidable e.InRoutine :=
  inferInstanceAs (Decidable (e = clearScreen ∨ e = subroutineReturn))

end Entry

/-! ## The first row that matches -/

/-- A row is found if the word matches it and no row that stands before it. -/
theorem lookupIn_eq_some_iff {rows : List Entry} {e : Entry} {w : Word} :
    lookupIn rows w = some e ↔
      e ∈ rows ∧ e.pattern.Matches w ∧
        ∀ f ∈ rows, f.pattern.Matches w → rows.idxOf e ≤ rows.idxOf f := by
  induction rows with
  | nil => simp [lookupIn]
  | cons row rest ih =>
      by_cases hit : row.pattern.Matches w
      · have found : lookupIn (row :: rest) w = some row := by simp [lookupIn, hit]
        rw [found]
        constructor
        · intro same
          cases same
          refine ⟨List.mem_cons_self, hit, fun f _ _ => ?_⟩
          rw [List.idxOf_cons_self]
          exact Nat.zero_le _
        · rintro ⟨-, -, first⟩
          have front := first row List.mem_cons_self hit
          rw [List.idxOf_cons_self, Nat.le_zero] at front
          by_contra other
          rw [List.idxOf_cons_ne _ fun same => other (congrArg some same)] at front
          exact Nat.succ_ne_zero _ front
      · -- rows that match are found in the rest, one place further back
        have passed : lookupIn (row :: rest) w = lookupIn rest w := by simp [lookupIn, hit]
        have behind {f : Entry} (matching : f.pattern.Matches w) :
            (row :: rest).idxOf f = rest.idxOf f + 1 :=
          List.idxOf_cons_ne _ fun same => hit (same ▸ matching)
        have inRest {f : Entry} (matching : f.pattern.Matches w) : f ∈ row :: rest ↔ f ∈ rest :=
          List.mem_cons.trans (or_iff_right fun same => hit (same ▸ matching))
        rw [passed, ih]
        constructor
        · rintro ⟨mem, own, first⟩
          refine ⟨(inRest own).mpr mem, own, fun f memF matching => ?_⟩
          rw [behind own, behind matching]
          exact Nat.succ_le_succ (first f ((inRest matching).mp memF) matching)
        · rintro ⟨mem, own, first⟩
          refine ⟨(inRest own).mp mem, own, fun f memF matching => ?_⟩
          have order := first f ((inRest matching).mpr memF) matching
          rw [behind own, behind matching] at order
          exact Nat.le_of_succ_le_succ order

theorem lookupIn_eq_none_iff {rows : List Entry} {w : Word} :
    lookupIn rows w = none ↔ ∀ e ∈ rows, ¬ e.pattern.Matches w := by
  simp [lookupIn]

/-! ## Rows that overlap -/

theorem clashes_or_overlap : ∀ e ∈ table, ∀ f ∈ table,
    e = f ∨ e.pattern.Clashes f.pattern ∨
      e = .machineRoutine ∧ f.InRoutine ∨ f = .machineRoutine ∧ e.InRoutine := by
  decide +kernel

/-- If a word matches two rows, one of them is `0NNN` and the other one of the two words in it. -/
theorem eq_or_overlap_of_matches {e f : Entry} {w : Word} (memE : e ∈ table) (memF : f ∈ table)
    (first : e.pattern.Matches w) (second : f.pattern.Matches w) :
    e = f ∨ e = .machineRoutine ∧ f.InRoutine ∨ f = .machineRoutine ∧ e.InRoutine :=
  (clashes_or_overlap e memE f memF).imp_right fun overlap =>
    overlap.resolve_left fun clash => clash.not_matches first second

/-- In the table `0NNN` stands behind the two rows. -/
theorem idxOf_lt_of_inRoutine {e : Entry} (inside : e.InRoutine) :
    table.idxOf e < table.idxOf .machineRoutine := by
  rcases inside with rfl | rfl <;> decide +kernel

/-- The words of the two rows are found there in the table, and match `0NNN` as well. -/
theorem lookup_inRoutine {e : Entry} (inside : e.InRoutine) :
    lookup e.pattern.value = some e ∧ Entry.machineRoutine.pattern.Matches e.pattern.value := by
  rcases inside with rfl | rfl <;> decide +kernel

theorem machineRoutine_mem_table : .machineRoutine ∈ table := by
  decide +kernel

/-- **The order of the table matters for `0NNN` alone.**  Take the rows of the instruction table in
any order.  The first row that a word matches is the one of the instruction table, for every word,
if and only if both `00E0` and `00EE` stand before `0NNN`. -/
theorem order_matters_for_routines_alone {rows : List Entry} (order : rows.Perm table) :
    (∀ w : Word, lookupIn rows w = lookup w) ↔
      rows.idxOf .clearScreen < rows.idxOf .machineRoutine ∧
        rows.idxOf .subroutineReturn < rows.idxOf .machineRoutine := by
  constructor
  · intro same
    have before {e : Entry} (inside : e.InRoutine) :
        rows.idxOf e < rows.idxOf .machineRoutine := by
      obtain ⟨found, also⟩ := lookup_inRoutine inside
      rw [← same] at found
      obtain ⟨mem, -, first⟩ := lookupIn_eq_some_iff.mp found
      have weak := first .machineRoutine (order.mem_iff.mpr machineRoutine_mem_table) also
      refine Nat.lt_of_le_of_ne weak fun equal => ?_
      have elsewhere := idxOf_lt_of_inRoutine inside
      rw [(List.idxOf_inj mem).mp equal] at elsewhere
      exact Nat.lt_irrefl _ elsewhere
    exact ⟨before (.inl rfl), before (.inr rfl)⟩
  · rintro ⟨clear, back⟩ w
    cases found : lookup w with
    | none =>
        rw [lookup, lookupIn_eq_none_iff] at found
        exact lookupIn_eq_none_iff.mpr fun e mem => found e (order.mem_iff.mp mem)
    | some e =>
        obtain ⟨mem, own, first⟩ := lookupIn_eq_some_iff.mp found
        refine lookupIn_eq_some_iff.mpr ⟨order.mem_iff.mpr mem, own, fun f memF matching => ?_⟩
        have inTable := order.mem_iff.mp memF
        rcases eq_or_overlap_of_matches mem inTable own matching with
          rfl | ⟨rfl, inside⟩ | ⟨rfl, inside⟩
        · exact Nat.le_refl _
        · -- the table would have found the other row
          exact absurd (first _ inTable matching) (Nat.not_le_of_lt (idxOf_lt_of_inRoutine inside))
        · rcases inside with rfl | rfl
          · exact Nat.le_of_lt clear
          · exact Nat.le_of_lt back

/-- With the first two rows exchanged the table finds the same, and turned round it does not. -/
theorem exchanged_and_reversed_tables :
    let exchanged := Entry.subroutineReturn :: Entry.clearScreen :: table.drop 2
    (exchanged.Perm table ∧ ∀ w : Word, lookupIn exchanged w = lookup w) ∧
    table.reverse.Perm table ∧ ¬ ∀ w : Word, lookupIn table.reverse w = lookup w := by
  intro exchanged
  have swap : exchanged.Perm table := List.Perm.swap _ _ _
  have turned : table.reverse.Perm table := List.reverse_perm table
  refine ⟨⟨swap, ?_⟩, turned, ?_⟩
  · rw [order_matters_for_routines_alone swap]
    decide +kernel
  · rw [order_matters_for_routines_alone turned]
    decide +kernel

end Chip8.Opcode
