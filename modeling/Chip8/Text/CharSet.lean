/-!
# Sets of characters

The properties of characters are given as ranges of code points, in the order in which they
start, so that a search may stop at the first range that starts behind the character.

## Main definitions

* `CharSet` — a set of characters, as a list of ranges
* `CharSet.covers` — the search; `c ∈ s` means that it finds the character

`mem_iff` says that the search finds exactly the characters of the ranges.
-/

namespace Chip8

/-- Whether no range starts before the one in front of it. -/
def CharSet.inOrder : List (Nat × Nat) → Bool
  | a :: b :: rest => a.1.ble b.1 && inOrder (b :: rest)
  | _ => true

/-- A set of characters: the first and the last code point of each of its ranges, in order. -/
structure CharSet where
  ranges : List (Nat × Nat)
  ordered : CharSet.inOrder ranges = true := by decide +kernel

namespace CharSet

/-- Whether one of the ranges holds a code point.  The search stops at the first range that starts
behind it. -/
def covers (code : Nat) : List (Nat × Nat) → Bool
  | [] => false
  | (first, last) :: rest =>
    if code < first then false else if code ≤ last then true else covers code rest

instance : Membership Char CharSet where
  mem s c := covers c.toNat s.ranges = true

instance (c : Char) (s : CharSet) : Decidable (c ∈ s) :=
  inferInstanceAs (Decidable (covers c.toNat s.ranges = true))

theorem inOrder_cons {a : Nat × Nat} {rest : List (Nat × Nat)} (h : inOrder (a :: rest) = true) :
    inOrder rest = true ∧ ∀ b ∈ rest, a.1 ≤ b.1 := by
  induction rest generalizing a with
  | nil => simp [inOrder]
  | cons b rest ih =>
    simp only [inOrder, Bool.and_eq_true, Nat.ble_eq] at h
    refine ⟨h.2, fun r mem => ?_⟩
    rcases List.mem_cons.mp mem with rfl | mem
    · exact h.1
    · exact Nat.le_trans h.1 ((ih h.2).2 r mem)

theorem covers_iff {code : Nat} {ranges : List (Nat × Nat)} (ordered : inOrder ranges = true) :
    covers code ranges = true ↔ ∃ r ∈ ranges, r.1 ≤ code ∧ code ≤ r.2 := by
  induction ranges with
  | nil => simp [covers]
  | cons range rest ih =>
    obtain ⟨first, last⟩ := range
    obtain ⟨ordered, behind⟩ := inOrder_cons ordered
    simp only [covers, List.mem_cons, exists_eq_or_imp]
    split
    case isTrue early =>
      simp only [Bool.false_eq_true, false_iff, not_or, not_exists, not_and]
      exact ⟨by omega, fun r mem _ => by have := behind r mem; omega⟩
    case isFalse =>
      split
      · simp; omega
      · rw [ih ordered]
        constructor
        · exact Or.inr
        · exact fun h => h.resolve_left (by omega)

/-- The members of a set are the characters of its ranges. -/
theorem mem_iff {c : Char} {s : CharSet} :
    c ∈ s ↔ ∃ r ∈ s.ranges, r.1 ≤ c.toNat ∧ c.toNat ≤ r.2 :=
  covers_iff s.ordered

end CharSet

end Chip8
