import Chip8.Memory.Program
import Mathlib.Order.Bounds.Basic

/-!
# Accesses to memory

Bytes, words and ranges are bounded in different ways, but by the same memory: a range is there
exactly if all its bytes are, and it is refused with the first of them that is not.  An empty range
has no such byte, so here the bound says more than the bytes do: it may stand right behind the last
one, and further out it is refused with its own address.

Where a range ends is worked out on numbers of 64 bits, with a sum that stops at the largest of
them.  Such a sum is never inside by mistake, so a range is bounded by the sum of whole numbers.

What stands in memory is told by its changes.  `Edit.put?` gives the byte that a change puts at an
address, read off the change alone, and what is read at an address is the last byte put there.

## Main definitions

* `cappedSum`, `Memory.Window`, `Memory.window` — a range that can be read and written, with its end
  worked out on 64 bits
* `Memory.Edit`, `Memory.attempt`, `Memory.edit` — one change of the memory, which may be refused
* `Memory.Edit.Refused` — the changes that are refused, with their errors
* `Memory.Edit.put?`, `Memory.Edit.lastPut?` — the byte that changes put at an address

## Main statements

* `map_read_range` — the bytes of a range are those at its addresses
* `window_eq` — the arithmetic on 64 bits comes to the same as that on whole numbers
* `byte_edit`, `byte_afterEdits` — the byte at an address after one change, and after any number
* `accesses_agree` — all of it
-/

namespace Chip8

/-- The sum of two numbers of 64 bits, or the largest such number if the sum is larger. -/
def cappedSum (a b : UInt64) : UInt64 :=
  if a + b < a then UInt64.ofNat (UInt64.size - 1) else a + b

theorem toNat_cappedSum (a b : UInt64) :
    (cappedSum a b).toNat = min (a.toNat + b.toNat) (UInt64.size - 1) := by
  have := a.toNat_lt
  have := b.toNat_lt
  -- the sum has wrapped round exactly if it has become smaller
  have wrapped : a + b < a ↔ UInt64.size ≤ a.toNat + b.toNat := by
    rw [UInt64.lt_iff_toNat_lt, UInt64.toNat_add]
    simp only [UInt64.size]
    omega
  rw [cappedSum]
  split
  · next h =>
      have := wrapped.mp h
      simp only [UInt64.size, UInt64.toNat_ofNat'] at this ⊢
      omega
  · next h =>
      have := mt wrapped.mpr h
      rw [UInt64.toNat_add]
      simp only [UInt64.size] at this ⊢
      omega

namespace Memory

variable {m : Memory} {a count : Nat}

/-! ## Bytes and ranges -/

theorem read_of_lt (inside : a < size) : m.read a = .ok (m.byte a) :=
  if_pos inside

theorem read_of_le (outside : size ≤ a) : m.read a = .error (.memoryFault a) :=
  if_neg (Nat.not_lt_of_le outside)

theorem read_eq_error_iff : (∃ e, m.read a = .error e) ↔ size ≤ a := by
  constructor
  · rintro ⟨e, failed⟩
    by_contra inside
    rw [read_of_lt (Nat.lt_of_not_le inside)] at failed
    cases failed
  · exact fun outside => ⟨_, read_of_le outside⟩

/-- The `count` bytes from `a` on, zero where there is none. -/
def bytesFrom (m : Memory) (a count : Nat) : List UInt8 :=
  (List.range count).map fun i => m.byte (a + i)

theorem slice_of_inside (inside : a + count ≤ size) : m.slice a count = .ok (m.bytesFrom a count) :=
  if_pos inside

theorem slice_of_outside (outside : size < a + count) :
    m.slice a count = .error (.memoryFault (max a size)) :=
  if_neg (Nat.not_le_of_lt outside)

theorem slice_eq_ok_iff : (∃ bytes, m.slice a count = .ok bytes) ↔ a + count ≤ size := by
  constructor
  · rintro ⟨bytes, done⟩
    by_contra outside
    rw [slice_of_outside (Nat.lt_of_not_le outside)] at done
    cases done
  · exact fun inside => ⟨_, slice_of_inside inside⟩

/-- In a range that is inside, every address is read, and gives the byte of the range. -/
theorem map_read_range (inside : a + count ≤ size) :
    (List.range' a count).map m.read = (m.bytesFrom a count).map .ok := by
  rw [List.range'_eq_map_range, List.map_map, bytesFrom, List.map_map]
  refine List.map_congr_left fun i mem => ?_
  have below : i < count := List.mem_range.mp mem
  exact read_of_lt (show a + i < size by omega)

/-- The error of a range names the first of its addresses that cannot be read. -/
theorem isLeast_fault (nonempty : 0 < count) (outside : size < a + count) :
    IsLeast {b | b ∈ List.range' a count ∧ ∃ e, m.read b = .error e} (max a size) := by
  simp only [read_eq_error_iff, List.mem_range'_1]
  constructor
  · exact ⟨⟨Nat.le_max_left a size, by omega⟩, Nat.le_max_right a size⟩
  · rintro b ⟨⟨above, -⟩, beyond⟩
    exact Nat.max_le.mpr ⟨above, beyond⟩

/-- A word is made of the two bytes of a range. -/
theorem wordAt_of_inside (inside : a + 2 ≤ size) :
    m.wordAt a = .ok (.ofBytes (m.byte a) (m.byte (a + 1))) := by
  rw [wordAt, read_of_lt (by omega), read_of_lt (by omega)]

/-- The first of the two addresses of a word that cannot be read decides the error. -/
theorem wordAt_of_outside (outside : size < a + 2) :
    m.wordAt a = .error (.memoryFault (max a size)) := by
  by_cases first : a < size
  · have last : max a size = a + 1 := by omega
    rw [wordAt, read_of_lt first, read_of_le (by omega), last]
  · rw [wordAt, read_of_le (Nat.le_of_not_lt first), Nat.max_eq_left (Nat.le_of_not_lt first)]

/-! ## Ranges on 64 bits -/

/-- A range that can be read and written. -/
structure Window where
  content : List UInt8
  /-- The memory with other bytes in place of the content. -/
  replaced : List UInt8 → Memory

/-- The range from one place up to another, if they are in order and inside. -/
def between? (m : Memory) (first stop : Nat) : Option Window :=
  if first ≤ stop ∧ stop ≤ size then
    some ⟨m.cells.toList.extract first stop, m.overwrite first⟩
  else none

/-- The range of `count` bytes from `a` on, with its end worked out on 64 bits. -/
def window (m : Memory) (a count : UInt64) : Except Error Window :=
  match m.between? a.toNat (cappedSum a count).toNat with
  | some w => .ok w
  | none => .error (.memoryFault (max a.toNat size))

theorem extract_cells (inside : a + count ≤ size) :
    m.cells.toList.extract a (a + count) = m.bytesFrom a count := by
  apply List.ext_getElem?
  intro i
  rw [List.extract_eq_take_drop, Nat.add_sub_cancel_left, List.getElem?_take, bytesFrom,
    List.getElem?_map]
  split
  · next below =>
      have place : a + i < 4096 := Nat.lt_of_lt_of_le (Nat.add_lt_add_left below a) inside
      rw [List.getElem?_drop, Vector.getElem?_toList, List.getElem?_range below, Option.map_some,
        byte, Vector.getElem?_eq_getElem place, Option.getD_some]
  · next above =>
      rw [List.getElem?_eq_none (by rw [List.length_range]; omega), Option.map_none]

/-- The capped sum bounds a range as the sum of whole numbers does. -/
theorem window_eq (m : Memory) (a count : UInt64) :
    m.window a count =
      if a.toNat + count.toNat ≤ size then
        .ok ⟨m.bytesFrom a.toNat count.toNat, m.overwrite a.toNat⟩
      else .error (.memoryFault (max a.toNat size)) := by
  have stop := toNat_cappedSum a count
  have := a.toNat_lt
  rw [window, between?]
  by_cases inside : a.toNat + count.toNat ≤ size
  · have exact : (cappedSum a count).toNat = a.toNat + count.toNat := by
      rw [stop]
      simp only [size] at inside
      simp only [UInt64.size]
      omega
    rw [exact, if_pos ⟨Nat.le_add_right _ _, inside⟩, if_pos inside, extract_cells inside]
  · have beyond : ¬ (a.toNat ≤ (cappedSum a count).toNat ∧ (cappedSum a count).toNat ≤ size) := by
      rw [stop]
      simp only [size] at inside ⊢
      simp only [UInt64.size]
      omega
    rw [if_neg beyond, if_neg inside]

/-- A range can be written exactly if it can be read, and shows the same bytes. -/
theorem content_window (m : Memory) (a count : UInt64) :
    (m.window a count).map Window.content = m.slice a.toNat count.toNat := by
  rw [window_eq]
  by_cases inside : a.toNat + count.toNat ≤ size
  · rw [if_pos inside, slice_of_inside inside]
    rfl
  · rw [if_neg inside, slice_of_outside (Nat.lt_of_not_le inside)]
    rfl

/-- Storing bytes puts them in place of a range. -/
theorem replaced_window (m : Memory) (a count : UInt64) {bytes : List UInt8}
    (length : bytes.length = count.toNat) :
    (m.window a count).map (·.replaced bytes) = m.store a.toNat bytes := by
  rw [window_eq, store, length]
  by_cases inside : a.toNat + count.toNat ≤ size
  · rw [if_pos inside, if_pos inside]
    rfl
  · rw [if_neg inside, if_neg inside]
    rfl

/-- Filling a range is storing one byte again and again. -/
theorem fill_eq_store (m : Memory) (a count : Nat) (value : UInt8) :
    m.fill a count value = m.store a (List.replicate count value) := by
  rw [fill, store, List.length_replicate]

/-! ## Changes -/

/-- One change of the memory. -/
inductive Edit where
  | write (a : Nat) (value : UInt8)
  /-- The same byte in a whole range. -/
  | fill (a count : Nat) (value : UInt8)
  /-- Bytes from `a` on, all of them or none. -/
  | store (a : Nat) (bytes : List UInt8)
  | clear
  | loadFont
  | loadProgram (image : List UInt8)
deriving DecidableEq, Repr

/-- The memory with the change, unless it is refused. -/
def attempt (m : Memory) : Edit → Except Error Memory
  | .write a value => m.write a value
  | .fill a count value => m.fill a count value
  | .store a bytes => m.store a bytes
  | .clear => .ok zeroed
  | .loadFont => .ok m.withFont
  | .loadProgram image => .ok (m.withProgram image)

/-- The memory after the change, whether it was refused or not. -/
def edit (m : Memory) (e : Edit) : Memory :=
  match m.attempt e with
  | .ok next => next
  | .error _ => m

/-- The memory after a list of changes. -/
def afterEdits (m : Memory) (edits : List Edit) : Memory :=
  edits.foldl edit m

namespace Edit

/-- The changes that are refused, each with its error. -/
inductive Refused : Edit → Error → Prop
  | write {a : Nat} (value : UInt8) (outside : 4096 ≤ a) : Refused (.write a value) (.memoryFault a)
  | fill {a count : Nat} (value : UInt8) (outside : 4096 < a + count) :
      Refused (.fill a count value) (.memoryFault (max a 4096))
  | store {a : Nat} {bytes : List UInt8} (outside : 4096 < a + bytes.length) :
      Refused (.store a bytes) (.memoryFault (max a 4096))

/-- The byte that bytes from `start` on put at an address. -/
def putFrom? (start : Nat) (bytes : List UInt8) (a : Nat) : Option UInt8 :=
  if start ≤ a then bytes[a - start]? else none

/-- The byte that a change puts at an address.  A range that goes beyond the end puts nothing
anywhere, and of a program image what goes beyond it is left out. -/
def put? : Edit → Nat → Option UInt8
  | .write start value, a => putFrom? start [value] a
  | .fill start count value, a =>
    if start + count ≤ 4096 then putFrom? start (List.replicate count value) a else none
  | .store start bytes, a => if start + bytes.length ≤ 4096 then putFrom? start bytes a else none
  | .clear, _ => some 0
  | .loadFont, a => putFrom? 0 font a
  | .loadProgram image, a => putFrom? 512 (image.take 3584) a

/-- The last byte that a list of changes puts at an address. -/
def lastPut? (edits : List Edit) (a : Nat) : Option UInt8 :=
  (edits.filterMap fun e => e.put? a).getLast?

theorem lastPut?_cons (e : Edit) (rest : List Edit) (a : Nat) :
    lastPut? (e :: rest) a = (lastPut? rest a).or (e.put? a) := by
  rw [lastPut?, List.filterMap_cons]
  cases e.put? a with
  | none => exact (Option.or_none).symm
  | some value => rw [List.getLast?_cons, lastPut?]; cases (rest.filterMap _).getLast? <;> rfl

end Edit

section Bounded

variable {within : Prop} [Decidable within] {next : Memory} {cause error : Error} {e : Edit}

theorem ite_eq_error_iff :
    (if within then Except.ok next else .error cause) = .error error ↔
      ¬ within ∧ error = cause := by
  by_cases h : within
  · simp [h]
  · simp [h, eq_comm]

/-- A change that is made on a condition leaves the memory as it is otherwise. -/
theorem edit_of_ite (attempt : m.attempt e = if within then .ok next else .error cause) :
    m.edit e = if within then next else m := by
  rw [edit, attempt]
  by_cases h : within
  · rw [if_pos h, if_pos h]
  · rw [if_neg h, if_neg h]

end Bounded

/-- Nothing is refused but what goes beyond the end. -/
theorem attempt_eq_error_iff {e : Edit} {error : Error} :
    m.attempt e = .error error ↔ e.Refused error := by
  constructor
  · intro refused
    cases e with
    | write a value =>
        obtain ⟨outside, rfl⟩ := ite_eq_error_iff.mp refused
        exact .write value (Nat.le_of_not_lt outside)
    | fill a count value =>
        obtain ⟨outside, rfl⟩ := ite_eq_error_iff.mp refused
        exact .fill value (Nat.lt_of_not_le outside)
    | store a bytes =>
        obtain ⟨outside, rfl⟩ := ite_eq_error_iff.mp refused
        exact .store (Nat.lt_of_not_le outside)
    | clear | loadFont | loadProgram image => cases refused
  · rintro (⟨value, outside⟩ | ⟨value, outside⟩ | ⟨outside⟩)
    · exact if_neg (Nat.not_lt_of_le outside)
    · exact if_neg (Nat.not_le_of_lt outside)
    · exact if_neg (Nat.not_le_of_lt outside)

theorem edit_of_error {e : Edit} {error : Error} (refused : m.attempt e = .error error) :
    m.edit e = m := by
  rw [edit, refused]

/-- Bytes that are written stand where they are put. -/
theorem byte_overwrite_eq_put (m : Memory) (start : Nat) (bytes : List UInt8) (inside : a < size) :
    (m.overwrite start bytes).byte a = (Edit.putFrom? start bytes a).getD (m.byte a) := by
  rw [byte_overwrite, Edit.putFrom?]
  by_cases before : a < start
  · rw [if_neg (by omega), if_neg (by omega), Option.getD_none]
  · rw [if_pos (Nat.le_of_not_lt before)]
    by_cases behind : a < start + bytes.length
    · have place : a - start < bytes.length := by omega
      rw [if_pos ⟨inside, Nat.le_of_not_lt before, behind⟩, List.getElem?_eq_getElem place]
      rfl
    · rw [if_neg fun h => behind h.2.2, List.getElem?_eq_none (by omega), Option.getD_none]

/-- A range that is written on a condition puts its bytes on that condition. -/
theorem byte_ite_overwrite (m : Memory) (within : Prop) [Decidable within] (start : Nat)
    (bytes : List UInt8) (inside : a < size) :
    (if within then m.overwrite start bytes else m).byte a =
      (if within then Edit.putFrom? start bytes a else none).getD (m.byte a) := by
  split
  · exact byte_overwrite_eq_put m start bytes inside
  · rfl

/-- After a change an address has the byte that the change puts there, or what was there. -/
theorem byte_edit (m : Memory) (e : Edit) (inside : a < size) :
    (m.edit e).byte a = (e.put? a).getD (m.byte a) := by
  cases e with
  | write start value =>
      have edited : m.edit (.write start value) =
          if start < size then m.overwrite start [value] else m := edit_of_ite rfl
      rw [edited]
      split
      · exact byte_overwrite_eq_put m start [value] inside
      · next beyond =>
          -- the address that would be written is none of the memory
          have before : ¬ start ≤ a := fun below => beyond (Nat.lt_of_le_of_lt below inside)
          rw [Edit.put?, Edit.putFrom?, if_neg before, Option.getD_none]
  | fill start count value =>
      have edited : m.edit (.fill start count value) =
          if start + count ≤ size then m.overwrite start (List.replicate count value) else m :=
        edit_of_ite rfl
      rw [edited]
      exact byte_ite_overwrite m _ start _ inside
  | store start bytes =>
      have edited : m.edit (.store start bytes) =
          if start + bytes.length ≤ size then m.overwrite start bytes else m := edit_of_ite rfl
      rw [edited]
      exact byte_ite_overwrite m _ start bytes inside
  | clear => exact byte_zeroed a
  | loadFont => exact byte_overwrite_eq_put m 0 font inside
  | loadProgram image => exact byte_overwrite_eq_put m entry (image.take capacity) inside

/-- After a list of changes an address has the last byte that they put there, or what was there. -/
theorem byte_afterEdits (m : Memory) (edits : List Edit) (inside : a < size) :
    (m.afterEdits edits).byte a = (Edit.lastPut? edits a).getD (m.byte a) := by
  induction edits generalizing m with
  | nil => rfl
  | cons e rest ih =>
      rw [afterEdits, List.foldl_cons, ← afterEdits, ih, byte_edit m e inside, Edit.lastPut?_cons]
      cases Edit.lastPut? rest a <;> rfl

/-- **All accesses agree.**  A range can be read exactly if it ends inside the memory, with sums of
whole numbers and for empty ranges too; then it is the list of what is read at its addresses, none
of which is refused.  Otherwise its error names the first of its addresses that cannot be read, and
for an empty range the place itself.  The same ranges can be written, with the same errors, and they
show the same bytes; whether a range is inside is worked out on 64 bits.  A word can be read exactly
if the range of its two bytes can, is made of them with the upper one first, and fails with the same
error.

Whatever changes are made to an empty memory, an address holds the last byte that was put there, and
zero if there was none.  Refused are exactly the writes and ranges that go beyond the end, and they
change nothing. -/
theorem accesses_agree (m : Memory) :
    (∀ a count : Nat,
      ((∃ bytes, m.slice a count = .ok bytes) ↔ a + count ≤ 4096) ∧
      (∀ bytes, m.slice a count = .ok bytes →
        (List.range' a count).map m.read = bytes.map .ok) ∧
      (4096 < a + count → m.slice a count = .error (.memoryFault (max a 4096)) ∧
        (0 < count →
          IsLeast {b | b ∈ List.range' a count ∧ ∃ e, m.read b = .error e} (max a 4096)))) ∧
    (∀ a count : UInt64,
      (m.window a count).map Window.content = m.slice a.toNat count.toNat ∧
      (∀ value, (m.window a count).map (·.replaced (List.replicate count.toNat value)) =
        m.fill a.toNat count.toNat value) ∧
      ∀ bytes : List UInt8, bytes.length = count.toNat →
        (m.window a count).map (·.replaced bytes) = m.store a.toNat bytes) ∧
    (∀ a : Nat,
      (∃ upper lower w, m.slice a 2 = .ok [upper, lower] ∧ m.wordAt a = .ok w ∧
        w.toNat = 256 * upper.toNat + lower.toNat) ∨
      ∃ e, m.slice a 2 = .error e ∧ m.wordAt a = .error e) ∧
    (∀ (edits : List Edit) (a : Nat), a < 4096 →
      (zeroed.afterEdits edits).read a = .ok ((Edit.lastPut? edits a).getD 0)) ∧
    ∀ (e : Edit) (error : Error),
      (m.attempt e = .error error ↔ e.Refused error) ∧
      (m.attempt e = .error error → ∀ a, (m.edit e).byte a = m.byte a) := by
  refine ⟨fun a count => ⟨slice_eq_ok_iff, ?_, ?_⟩, fun a count => ⟨?_, ?_, ?_⟩, ?_, ?_, ?_⟩
  · intro bytes done
    have inside : a + count ≤ size := slice_eq_ok_iff.mp ⟨bytes, done⟩
    rw [slice_of_inside inside] at done
    cases done
    exact map_read_range inside
  · exact fun outside => ⟨slice_of_outside outside, fun nonempty => isLeast_fault nonempty outside⟩
  · exact content_window m a count
  · intro value
    rw [fill_eq_store, replaced_window m a count List.length_replicate]
  · exact fun bytes length => replaced_window m a count length
  · intro a
    by_cases inside : a + 2 ≤ size
    · refine .inl ⟨m.byte a, m.byte (a + 1), _, slice_of_inside inside, wordAt_of_inside inside, ?_⟩
      rw [Word.toNat_ofBytes, Nat.mul_comm]
    · have outside := Nat.lt_of_not_le inside
      exact .inr ⟨_, slice_of_outside outside, wordAt_of_outside outside⟩
  · intro edits a inside
    rw [read_of_lt inside, byte_afterEdits _ _ inside, byte_zeroed]
  · exact fun e error => ⟨attempt_eq_error_iff, fun refused a => by rw [edit_of_error refused]⟩

/-- A program is loaded over a range that has been filled, and one of its bytes is written again;
two changes go beyond the end and leave no trace.  An empty range may stand right behind the last
byte, but not further out, and a range whose end is none on 64 bits is refused like any other. -/
theorem overlapping_and_refused_changes :
    let edits : List Edit := [.fill 510 4 0xAA, .loadProgram [1, 2, 3], .write 513 0xBB,
      .fill 4095 2 9, .write 5000 7]
    let m := zeroed.afterEdits edits
    [511, 512, 513, 514, 4095].map m.read = [0xAA, 1, 0xBB, 3, 0].map .ok ∧
    m.attempt (.fill 4095 2 9) = .error (.memoryFault 4096) ∧
    (∃ bytes, m.slice 4096 0 = .ok bytes) ∧
    m.slice 4097 0 = .error (.memoryFault 4097) ∧
    IsLeast {b | b ∈ List.range' 4095 2 ∧ ∃ e, m.read b = .error e} 4096 ∧
    m.slice 4095 2 = .error (.memoryFault 4096) ∧ m.wordAt 4095 = .error (.memoryFault 4096) ∧
    m.fill 1 18446744073709551615 9 = .error (.memoryFault 4096) := by
  intro edits m
  obtain ⟨ranges, windows, words, history, refusals⟩ := accesses_agree m
  have reads : [511, 512, 513, 514, 4095].map m.read =
      [511, 512, 513, 514, 4095].map fun a => .ok ((Edit.lastPut? edits a).getD 0) :=
    List.map_congr_left fun a mem => history edits a (by revert a; decide)
  have put : [511, 512, 513, 514, 4095].map (fun a => (Edit.lastPut? edits a).getD 0) =
      [0xAA, 1, 0xBB, 3, 0] := by decide +kernel
  obtain ⟨crossing, first⟩ := (ranges 4095 2).2.2 (by decide)
  have word : m.wordAt 4095 = .error (.memoryFault 4096) := by
    rcases words 4095 with ⟨upper, lower, w, whole, -⟩ | ⟨e, range, word⟩
    · cases crossing.symm.trans whole
    · cases range.symm.trans crossing
      exact word
  have endless : m.fill 1 18446744073709551615 9 = .error (.memoryFault 4096) := by
    obtain ⟨content, filled, -⟩ := windows 1 18446744073709551615
    have refused := ((ranges 1 18446744073709551615).2.2 (by decide)).1
    cases window : m.window 1 18446744073709551615 with
    | ok w => rw [window] at content; cases content.trans refused
    | error e =>
        rw [window] at content filled
        cases content.trans refused
        exact (filled 9).symm
  refine ⟨?_, (refusals (.fill 4095 2 9) _).1.mpr (.fill 9 (by decide)),
    (ranges 4096 0).1.mpr (by decide), ((ranges 4097 0).2.2 (by decide)).1, first (by decide),
    crossing, word, endless⟩
  rw [reads, ← put, List.map_map]
  rfl

end Memory

end Chip8
