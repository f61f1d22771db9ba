import Chip8.Machine.History

/-!
# Starting over

A restart brings every part of the machine back to what it was at power-on, except for the held
keys and, unless it is to be cleared, the memory.  So all that a restart takes over from the past is
which keys are held, and a program that is loaded finds the same machine whatever ran before.

What a restart leaves is said without the functions that do it: `StartedOver` names the parts that
are not those of power-on, and `Memory.Holds` gives every byte after a program was loaded.  Together
they determine the state.

## Main definitions

* `Machine.StartedOver` — the state at power-on, but for the memory and the held keys
* `Memory.Holds` — the font and a program image in an otherwise empty memory

## Main statements

* `startedOver_afterReset`, `holds_withProgram` — what a restart leaves, and what loading writes
* `StartedOver.eq` — the held keys and the memory determine a machine that has started over
* `restart_forgets_the_past` — all that is left of the past is which keys are held
-/

namespace Chip8

/-! ## Memory after loading -/

namespace Memory

/-- The font stands at the lowest addresses and as much of the image as fits from `0x200` on; every
other byte is zero. -/
structure Holds (m : Memory) (image : List UInt8) : Prop where
  font : ∀ a < 80, some (m.byte a) = font[a]?
  program : ∀ i < min image.length 3584, some (m.byte (512 + i)) = image[i]?
  rest : ∀ a, 80 ≤ a → ¬ (512 ≤ a ∧ a < 512 + min image.length 3584) → m.byte a = 0

theorem holds_withProgram (image : List UInt8) :
    (zeroed.withFont.withProgram image).Holds image where
  font a low := by
    have outside : ¬ (entry ≤ a ∧ a < entry + loadedLength image) := by
      simp only [entry]
      omega
    have inFont : a < font.length := low
    rw [byte_withProgram, if_neg outside, byte_withFont, List.getElem?_eq_getElem inFont,
      Option.getD_some]
  program i inside := by
    have placed : entry ≤ 512 + i ∧ 512 + i < entry + loadedLength image :=
      ⟨Nat.le_add_right _ _, Nat.add_lt_add_left inside 512⟩
    have inImage : i < image.length := Nat.lt_of_lt_of_le inside (Nat.min_le_left _ _)
    rw [byte_withProgram, if_pos placed, Nat.add_sub_cancel_left, List.getElem?_eq_getElem inImage,
      Option.getD_some]
  rest a high outside := by
    have behindFont : font[a]? = none := List.getElem?_eq_none high
    have notPlaced : ¬ (entry ≤ a ∧ a < entry + loadedLength image) := outside
    rw [byte_withProgram, if_neg notPlaced, byte_withFont, behindFont, Option.getD_none,
      byte_zeroed]

/-- An image determines the memory that holds it. -/
theorem Holds.eq {m n : Memory} {image : List UInt8} (hm : m.Holds image) (hn : n.Holds image) :
    m = n := by
  apply eq_of_byte
  intro a _
  by_cases low : a < 80
  · exact Option.some.inj ((hm.font a low).trans (hn.font a low).symm)
  · by_cases placed : 512 ≤ a ∧ a < 512 + min image.length 3584
    · obtain ⟨i, rfl⟩ := Nat.exists_eq_add_of_le placed.1
      have inside : i < min image.length 3584 := Nat.lt_of_add_lt_add_left placed.2
      exact Option.some.inj ((hm.program i inside).trans (hn.program i inside).symm)
    · have high : 80 ≤ a := Nat.le_of_not_lt low
      exact (hm.rest a high placed).trans (hn.rest a high placed).symm

end Memory

namespace Machine

/-! ## Machines that have started over -/

/-- The state `next` is the one at power-on, except that it has a memory of its own, and that the
keys held in `m` are held.  No register waits for a key. -/
structure StartedOver (m next : Machine) : Prop where
  others : next = { powerOn with memory := next.memory, keypad := next.keypad }
  held : ∀ k, next.keypad.isHeld k = m.keypad.isHeld k
  awaiting : next.awaiting = none

variable {m n : Machine}

theorem memory_afterReset_true (m : Machine) : (m.afterReset true).memory = powerOn.memory := by
  simp only [afterReset, if_true]

theorem memory_afterReset_false (m : Machine) : (m.afterReset false).memory = m.memory := by
  simp only [afterReset, Bool.false_eq_true, if_false]

theorem startedOver_afterReset (m : Machine) (clearMemory : Bool) :
    m.StartedOver (m.afterReset clearMemory) where
  others := rfl
  held := Keypad.isHeld_dropWait m.keypad
  awaiting := rfl

theorem startedOver_load (m : Machine) (image : List UInt8) :
    m.StartedOver (m.load image).state where
  others := rfl
  held := Keypad.isHeld_dropWait m.keypad
  awaiting := rfl

theorem holds_load (m : Machine) (image : List UInt8) : (m.load image).state.memory.Holds image :=
  Memory.holds_withProgram image

/-- The held keys and the memory determine a machine that has started over. -/
theorem StartedOver.eq {a b : Machine} (ha : m.StartedOver a) (hb : n.StartedOver b)
    (sameKeys : ∀ k, m.keypad.isHeld k = n.keypad.isHeld k) (memory : a.memory = b.memory) :
    a = b := by
  have keypad : a.keypad = b.keypad := by
    refine Keypad.eq_of_isHeld ?_ (ha.awaiting.trans hb.awaiting.symm)
    intro k
    rw [ha.held, hb.held, sameKeys]
  rw [ha.others, hb.others, memory, keypad]

theorem load_eq (sameKeys : ∀ k, m.keypad.isHeld k = n.keypad.isHeld k) (image : List UInt8) :
    m.load image = n.load image := by
  have state : (m.load image).state = (n.load image).state :=
    (startedOver_load m image).eq (startedOver_load n image) sameKeys
      ((holds_load m image).eq (holds_load n image))
  -- the log speaks of the image and of the memory, and of nothing that was before
  have log : (m.load image).log = (n.load image).log := rfl
  calc m.load image = ⟨(m.load image).result, (m.load image).state, (m.load image).log⟩ := rfl
    _ = ⟨(n.load image).result, (n.load image).state, (n.load image).log⟩ := by rw [state, log]; rfl

theorem reset_eq (sameKeys : ∀ k, m.keypad.isHeld k = n.keypad.isHeld k) {clearMemory : Bool}
    (memory : clearMemory = false → m.memory = n.memory) :
    m.reset clearMemory = n.reset clearMemory := by
  have kept : (m.afterReset clearMemory).memory = (n.afterReset clearMemory).memory := by
    cases clearMemory with
    | true => rw [memory_afterReset_true, memory_afterReset_true]
    | false => rw [memory_afterReset_false, memory_afterReset_false, memory rfl]
  rw [reset, reset, (startedOver_afterReset m _).eq (startedOver_afterReset n _) sameKeys kept]

/-- **A restart forgets the past.**  Take any two machines with the same held keys.  Loading a
program gives back the number of bytes that fit, and leaves the font and the program in an otherwise
empty memory; a reset leaves the memory of power-on or, if it is not to be cleared, the memory as it
is.  In all other parts the machine is as at power-on, except that the held keys are kept.  So both
machines give the same replies and are in the same state afterwards, and they go the same way in
every later run, provided that a reset which keeps the memory found the same one in both. -/
theorem restart_forgets_the_past (m n : Machine)
    (sameKeys : ∀ k, m.keypad.isHeld k = n.keypad.isHeld k) :
    (∀ image : List UInt8,
      (m.load image).result = min image.length 3584 ∧
      (m.load image).state.memory.Holds image ∧
      m.StartedOver (m.load image).state ∧
      m.load image = n.load image) ∧
    ((m.reset true).state.memory = powerOn.memory ∧
      m.StartedOver (m.reset true).state ∧
      m.reset true = n.reset true) ∧
    ((m.reset false).state.memory = m.memory ∧
      m.StartedOver (m.reset false).state ∧
      (m.memory = n.memory → m.reset false = n.reset false)) ∧
    ∀ restart : Operation, restart.isRestart = true →
      (restart = .reset false → m.memory = n.memory) →
      ∀ later : List Operation,
        (m.apply restart).state.history later = (n.apply restart).state.history later := by
  refine ⟨?_,
    ⟨memory_afterReset_true m, startedOver_afterReset m true, reset_eq sameKeys nofun⟩,
    ⟨memory_afterReset_false m, startedOver_afterReset m false,
      fun memory => reset_eq sameKeys fun _ => memory⟩, ?_⟩
  · intro image
    exact ⟨rfl, holds_load m image, startedOver_load m image, load_eq sameKeys image⟩
  · intro restart starts memory later
    cases restart with
    | load image => rw [apply, apply, load_eq sameKeys image]
    | reset clearMemory =>
        have kept : clearMemory = false → m.memory = n.memory := by
          rintro rfl
          exact memory rfl
        rw [apply, apply, reset_eq sameKeys kept]
    | _ => cases starts

/-- One machine has come to its end in a subroutine, another one waits for a key in the older mode;
in both, key 3 is held.  An overlong program is cut off in the same way in both, and after a program
that fits they take the same steps, with a key and a tick in between. -/
theorem halted_and_waiting_machines_load_alike :
    let m := powerOn.after [.load [0x22, 0x04, 0x00, 0x00], .keyDown 3, .step 0, .step 0]
    let n := powerOn.after [.keyDown 3, .load [0xF5, 0x0A], .setMode .chip8, .step 0]
    let overlong : List UInt8 := List.replicate 3600 0xAB
    let later : List Operation := [.step 0, .keyDown 7, .clock, .step 0]
    m.status = .halted ∧ n.status = .awaitingInput ∧ n.mode ≠ m.mode ∧
    (∀ k, m.keypad.isHeld k = n.keypad.isHeld k) ∧ m.keypad.isHeld 3 = true ∧
    (m.load overlong).result = 3584 ∧ m.load overlong = n.load overlong ∧
    (m.load overlong).state.keypad.isHeld 3 = true ∧
    (m.apply (.load [0xF1, 0x0A])).state.history later =
      (n.apply (.load [0xF1, 0x0A])).state.history later := by
  intro m n overlong later
  obtain ⟨halted, awaiting, mode, sameKeys, held⟩ :
      m.status = .halted ∧ n.status = .awaitingInput ∧ n.mode ≠ m.mode ∧
      (∀ k, m.keypad.isHeld k = n.keypad.isHeld k) ∧ m.keypad.isHeld 3 = true := by decide +kernel
  obtain ⟨loads, -, -, alike⟩ := restart_forgets_the_past m n sameKeys
  obtain ⟨loaded, -, afresh, same⟩ := loads overlong
  have length : min overlong.length 3584 = 3584 := by
    rw [List.length_replicate]
    rfl
  exact ⟨halted, awaiting, mode, sameKeys, held, loaded.trans length, same,
    (afresh.held 3).trans held, alike (.load _) rfl nofun later⟩

end Machine

end Chip8
