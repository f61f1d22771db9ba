import Chip8.Proofs.Lineages
import Chip8.Proofs.Outcomes

/-!
# Block transfers

`FX55` writes `V0` to `VX` to memory at the index, and `FX65` reads them from there.  Each register
has its own byte, so the two undo each other, whatever happens to the registers in between and
wherever the index is moved, as long as it is put back.  `FX33` writes the digits of `VX`, and
`F265` takes them into `V0`, `V1` and `V2`, where the number can be read off again.

What a transfer leaves is said register by register and byte by byte, so that the laws about two
transfers in a row do not look into either.

## Main definitions

* `BlockStored`, `BlockLoaded` — what `FX55` and `FX65` leave
* `Registers.HoldDigits` — the three lowest registers hold the digits of a number

## Main statements

* `Runs.blockStored`, `Runs.blockLoaded`, `Runs.digitsStored` — the transfers take effect
* `BlockStored.restored`, `BlockLoaded.rewritten` — and undo each other
* `block_transfers_round_trip` — both, with the index, and the digits
-/

namespace Chip8

/-! ## Digits -/

/-- `V0`, `V1` and `V2` are decimal digits, and together they stand for `number`. -/
structure Registers.HoldDigits (rs : Registers) (number : Nat) : Prop where
  hundreds : (rs.read 0).toNat ≤ 9
  tens : (rs.read 1).toNat ≤ 9
  units : (rs.read 2).toNat ≤ 9
  number : 100 * (rs.read 0).toNat + 10 * (rs.read 1).toNat + (rs.read 2).toNat = number

namespace Machine

variable {m next later after : Machine} {operation : Operation} {w v : Word}

/-- Registers whose lowest three have the digits of a byte hold these digits. -/
theorem holdDigits_of_decimalDigits {rs : Registers} {value : UInt8}
    (digits : [rs.read 0, rs.read 1, rs.read 2] = decimalDigits value) :
    rs.HoldDigits value.toNat := by
  have small := value.toNat_lt
  simp only [decimalDigits, List.cons.injEq, and_true] at digits
  obtain ⟨hundreds, tens, units⟩ := digits
  refine ⟨?_, ?_, ?_, ?_⟩ <;>
    simp only [hundreds, tens, units, UInt8.toNat_div, UInt8.toNat_mod,
      UInt8.reduceToNat] <;>
    omega

/-! ## What a transfer leaves -/

/-- The registers up to `VX` stand in memory from the index on, and nothing else was written. -/
structure BlockStored (m : Machine) (w : Word) (next : Machine) : Prop where
  registers : next.registers = m.registers
  inside : ∀ r ≤ w.x, next.memory.byte (m.index.toNat + r.val) = m.registers.read r
  outside : ∀ a, ¬ (m.index.toNat ≤ a ∧ a ≤ m.index.toNat + w.x.val) →
    next.memory.byte a = m.memory.byte a
  index : m.IndexAfterTransfer w next

/-- The registers up to `VX` hold the bytes from the index on, and no other register was written. -/
structure BlockLoaded (m : Machine) (w : Word) (next : Machine) : Prop where
  memory : next.memory = m.memory
  inside : ∀ r ≤ w.x, next.registers.read r = m.memory.byte (m.index.toNat + r.val)
  outside : ∀ r, w.x < r → next.registers.read r = m.registers.read r
  index : m.IndexAfterTransfer w next

theorem getElem?_lowest {rs : Registers} {r : Register} {count : Nat} (below : r.val < count) :
    (rs.lowest count)[r.val]? = some (rs.read r) := by
  rw [Registers.lowest, List.getElem?_take_of_lt below, Registers.toList_getElem?]

theorem getElem?_bytesAtIndex {count i : Nat} (below : i < count) :
    (m.bytesAtIndex count)[i]? = some (m.memory.byte (m.index.toNat + i)) := by
  rw [bytesAtIndex, List.getElem?_map, List.getElem?_range below, Option.map_some]

/-- Bytes that were written at the index are found there. -/
theorem bytesAtIndex_overwrite (bytes : List UInt8) (inside : m.index.toNat + bytes.length ≤ 4096) :
    { m with memory := m.memory.overwrite m.index.toNat bytes }.bytesAtIndex bytes.length =
      bytes := by
  apply List.ext_getElem?
  intro i
  by_cases below : i < bytes.length
  · have placed : m.index.toNat + i < Memory.size ∧ m.index.toNat ≤ m.index.toNat + i ∧
        m.index.toNat + i < m.index.toNat + bytes.length := by
      simp only [Memory.size]
      omega
    rw [getElem?_bytesAtIndex below, Memory.byte_overwrite, if_pos placed, Nat.add_sub_cancel_left,
      List.getElem?_eq_getElem below, Option.getD_some]
  · have behind : bytes.length ≤ i := Nat.le_of_not_lt below
    rw [List.getElem?_eq_none behind, List.getElem?_eq_none]
    rwa [bytesAtIndex, List.length_map, List.length_range]

theorem blockStored_performed (accepted : m.refusal .store w = none) (pc : UInt16) (byte : UInt8) :
    m.BlockStored w ({ m with pc := pc }.performed .store w byte) where
  registers := rfl
  inside r low := by
    have fits := rangeRefusal_eq_none_iff.mp accepted
    have below : r.val < transferCount w := Nat.lt_succ_of_le low
    change (m.memory.overwrite m.index.toNat (m.registers.lowest (transferCount w))).byte _ = _
    rw [Memory.byte_overwrite, length_lowest_transferCount, if_pos (by omega),
      Nat.add_sub_cancel_left, getElem?_lowest below, Option.getD_some]
  outside a away := by
    change (m.memory.overwrite m.index.toNat (m.registers.lowest (transferCount w))).byte _ = _
    rw [Memory.byte_overwrite, length_lowest_transferCount, if_neg]
    rintro ⟨-, left, right⟩
    exact away ⟨left, Nat.le_of_lt_succ right⟩
  index := indexAfterTransfer_performed (m := { m with pc := pc }) (.inl rfl) accepted byte

theorem blockLoaded_performed (accepted : m.refusal .load w = none) (pc : UInt16) (byte : UInt8) :
    m.BlockLoaded w ({ m with pc := pc }.performed .load w byte) where
  memory := rfl
  inside r low := by
    have below : r.val < transferCount w := Nat.lt_succ_of_le low
    change (m.registers.load (m.bytesAtIndex (transferCount w))).read r = _
    rw [Registers.read_load, getElem?_bytesAtIndex below, Option.getD_some]
  outside r high := by
    have behind : (m.bytesAtIndex (transferCount w)).length ≤ r.val := by
      rw [bytesAtIndex, List.length_map, List.length_range]
      exact high
    change (m.registers.load (m.bytesAtIndex (transferCount w))).read r = _
    rw [Registers.read_load, List.getElem?_eq_none behind, Option.getD_none]
  index := indexAfterTransfer_performed (m := { m with pc := pc }) (.inr rfl) accepted byte

theorem Runs.blockStored (runs : m.Runs operation w) (word : w &&& 0xF0FF = 0xF055)
    (inside : m.index.toNat + w.x.val + 1 ≤ 4096) :
    (m.apply operation).result = some (.ok (.executed .store)) ∧
      m.BlockStored w (m.apply operation).state := by
  have family := (Opcode.decode_store_iff w).mpr word
  have accepted : m.refusal .store w = none := rangeRefusal_eq_none_iff.mpr inside
  obtain ⟨pc, byte, reply⟩ := runs.apply_of_accepted (by decide) family accepted
  rw [reply]
  exact ⟨rfl, blockStored_performed accepted pc byte⟩

theorem Runs.blockLoaded (runs : m.Runs operation w) (word : w &&& 0xF0FF = 0xF065)
    (inside : m.index.toNat + w.x.val + 1 ≤ 4096) :
    (m.apply operation).result = some (.ok (.executed .load)) ∧
      m.BlockLoaded w (m.apply operation).state := by
  have family := (Opcode.decode_load_iff w).mpr word
  have accepted : m.refusal .load w = none := rangeRefusal_eq_none_iff.mpr inside
  obtain ⟨pc, byte, reply⟩ := runs.apply_of_accepted (by decide) family accepted
  rw [reply]
  exact ⟨rfl, blockLoaded_performed accepted pc byte⟩

/-- The digits of `VX` stand at the index, which does not move. -/
theorem Runs.digitsStored (runs : m.Runs operation w) (word : w &&& 0xF0FF = 0xF033)
    (inside : m.index.toNat + 3 ≤ 4096) :
    (m.apply operation).result = some (.ok (.executed .binaryCodedDecimal)) ∧
      (m.apply operation).state.index = m.index ∧
      (m.apply operation).state.bytesAtIndex 3 = decimalDigits (m.vx w) := by
  have family := (Opcode.decode_binaryCodedDecimal_iff w).mpr word
  have accepted : m.refusal .binaryCodedDecimal w = none := rangeRefusal_eq_none_iff.mpr inside
  obtain ⟨pc, byte, reply⟩ := runs.apply_of_accepted (by decide) family accepted
  rw [reply]
  exact ⟨rfl, rfl, bytesAtIndex_overwrite (decimalDigits (m.vx w)) inside⟩

/-! ## Two transfers in a row -/

/-- Registers that were stored come back, whatever has become of them meanwhile. -/
theorem BlockStored.restored (stored : m.BlockStored w next) (memory : later.memory = next.memory)
    (index : later.index = m.index) (loaded : later.BlockLoaded v after) (same : v.x = w.x)
    (r : Register) :
    after.registers.read r = if r ≤ w.x then m.registers.read r else later.registers.read r := by
  split
  · next low => rw [loaded.inside r (same ▸ low), memory, index, stored.inside r low]
  · next high => rw [loaded.outside r (same ▸ Nat.lt_of_not_le high)]

/-- Bytes that were loaded are the ones that are written back. -/
theorem BlockLoaded.rewritten (loaded : m.BlockLoaded w next) (memory : later.memory = next.memory)
    (registers : ∀ r ≤ w.x, later.registers.read r = next.registers.read r)
    (index : later.index = m.index) (stored : later.BlockStored v after) (same : v.x = w.x) :
    after.memory = m.memory := by
  apply Memory.eq_of_byte
  intro a _
  by_cases inside : m.index.toNat ≤ a ∧ a ≤ m.index.toNat + w.x.val
  · -- the byte belongs to the register that is as far from `V0` as it is from the index
    obtain ⟨i, rfl⟩ := Nat.exists_eq_add_of_le inside.1
    have low : i ≤ w.x.val := Nat.le_of_add_le_add_left inside.2
    have also : i ≤ v.x.val := by rwa [same]
    have back := stored.inside ⟨i, Nat.lt_of_le_of_lt low w.x.isLt⟩ also
    rw [index, registers _ low, loaded.inside _ low] at back
    exact back
  · rw [stored.outside a (by rwa [index, same]), memory, loaded.memory]

/-- Digits that stand at the index are loaded into the three lowest registers. -/
theorem BlockLoaded.holdDigits (loaded : m.BlockLoaded 0xF265 next) {value : UInt8}
    (digits : m.bytesAtIndex 3 = decimalDigits value) : next.registers.HoldDigits value.toNat := by
  apply holdDigits_of_decimalDigits
  rw [← digits, loaded.inside 0 (by decide), loaded.inside 1 (by decide),
    loaded.inside 2 (by decide)]
  rfl

/-- **Block transfers undo each other, and digits can be read back.**  In both modes, let the bytes
from the index on that a transfer of `V0` to `VX` needs be in the memory.  Then `FX55` stores the
block, and a later `FX65` with the index put back restores it, whatever was written to registers in
between; the registers above `VX` it leaves alone.  `FX65` loads the block, and a later `FX55` with
the index put back leaves the memory as it was in the beginning.  Both advance the index by exactly
the length of the block in the older mode, and leave it in the newer one.  And after `FX33`, `F265`
leaves the three digits of the number that `VX` held. -/
theorem block_transfers_round_trip :
    (∀ (m : Machine) (save : Operation) (w : Word),
      m.Runs save w → w &&& 0xF0FF = 0xF055 → m.index.toNat + w.x.val + 1 ≤ 4096 →
      let saved := m.apply save
      saved.result = some (.ok (.executed .store)) ∧
      m.BlockStored w saved.state ∧
      ∀ (later : Machine) (restore : Operation) (v : Word),
        later.memory = saved.state.memory → later.index = m.index →
        later.Runs restore v → v &&& 0xF0FF = 0xF065 → v.x = w.x →
        let restored := later.apply restore
        restored.result = some (.ok (.executed .load)) ∧
        later.BlockLoaded v restored.state ∧
        ∀ r, restored.state.registers.read r =
          if r ≤ w.x then m.registers.read r else later.registers.read r) ∧
    (∀ (m : Machine) (fetch : Operation) (w : Word),
      m.Runs fetch w → w &&& 0xF0FF = 0xF065 → m.index.toNat + w.x.val + 1 ≤ 4096 →
      let fetched := m.apply fetch
      fetched.result = some (.ok (.executed .load)) ∧
      m.BlockLoaded w fetched.state ∧
      ∀ (later : Machine) (save : Operation) (v : Word),
        later.memory = fetched.state.memory → later.index = m.index →
        (∀ r ≤ w.x, later.registers.read r = fetched.state.registers.read r) →
        later.Runs save v → v &&& 0xF0FF = 0xF055 → v.x = w.x →
        let saved := later.apply save
        saved.result = some (.ok (.executed .store)) ∧
        later.BlockStored v saved.state ∧
        saved.state.memory = m.memory) ∧
    ∀ (m : Machine) (split : Operation) (w : Word),
      m.Runs split w → w &&& 0xF0FF = 0xF033 → m.index.toNat + 3 ≤ 4096 →
      let written := m.apply split
      written.result = some (.ok (.executed .binaryCodedDecimal)) ∧
      ∀ (later : Machine) (fetch : Operation),
        later.memory = written.state.memory → later.index = written.state.index →
        later.Runs fetch 0xF265 →
        let fetched := later.apply fetch
        fetched.result = some (.ok (.executed .load)) ∧
        fetched.state.registers.HoldDigits (m.vx w).toNat := by
  refine ⟨?_, ?_, ?_⟩
  · intro m save w runs word inside saved
    obtain ⟨done, stored⟩ := runs.blockStored word inside
    refine ⟨done, stored, ?_⟩
    intro later restore v memory index runs word same restored
    obtain ⟨done, loaded⟩ := runs.blockLoaded word (by rwa [index, same])
    exact ⟨done, loaded, stored.restored memory index loaded same⟩
  · intro m fetch w runs word inside fetched
    obtain ⟨done, loaded⟩ := runs.blockLoaded word inside
    refine ⟨done, loaded, ?_⟩
    intro later save v memory index registers runs word same saved
    obtain ⟨done, stored⟩ := runs.blockStored word (by rwa [index, same])
    exact ⟨done, stored, loaded.rewritten memory registers index stored same⟩
  · intro m split w runs word inside written
    obtain ⟨done, stays, stand⟩ := runs.digitsStored word inside
    refine ⟨done, ?_⟩
    intro later fetch memory index runs fetched
    have fits : later.index.toNat + 3 ≤ 4096 := by rwa [index, stays]
    obtain ⟨done, loaded⟩ := runs.blockLoaded (by decide) fits
    have digits : later.bytesAtIndex 3 = decimalDigits (m.vx w) := by
      rw [← stand, bytesAtIndex, bytesAtIndex, memory, index]
    exact ⟨done, loaded.holdDigits digits⟩

/-- At the very end of the memory, `F155` of the older mode moves the index behind it; `V0` and `V1`
come back after they were cleared and the mode was changed, while `V2` keeps its new content.  The
other way round the memory is unchanged, and the digits of 254, which `V1` held, are loaded into
`V1` too. -/
theorem two_registers_at_end_of_memory :
    let m : Machine := { powerOn with
      registers := ((Registers.zeroed.write 0 0x11).write 1 254).write 2 0x33
      index := 4094
      mode := .chip8 }
    let saved := m.apply (.execute 0xF155 0)
    let later : Machine := { saved.state with
      registers := Registers.zeroed.write 2 0x44
      index := 4094
      mode := .superChip }
    let restored := later.apply (.execute 0xF165 0)
    let fetched := m.apply (.execute 0xF165 0)
    let rewritten := { fetched.state with index := 4094 }.apply (.execute 0xF155 0)
    let split := { m with index := 4093 }.apply (.execute 0xF133 0)
    (m.Runs (.execute 0xF155 0) 0xF155 ∧ (0xF155 : Word) &&& 0xF0FF = 0xF055 ∧
      m.index.toNat + (Word.x 0xF155).val + 1 ≤ 4096) ∧
    saved.state.index.toNat = 4096 ∧ restored.state.index = 4094 ∧
    restored.state.registers.read 0 = 0x11 ∧ restored.state.registers.read 1 = 254 ∧
    restored.state.registers.read 2 = 0x44 ∧
    rewritten.state.memory = m.memory ∧
    (split.state.apply (.execute 0xF265 0)).state.registers.HoldDigits 254 := by
  intro m saved later restored fetched rewritten split
  obtain ⟨saves, fetches, splits⟩ := block_transfers_round_trip
  have runs : m.Runs (.execute 0xF155 0) 0xF155 := .execute 0xF155 0
  obtain ⟨-, stored, restores⟩ := saves m _ 0xF155 runs (by decide) (by decide)
  obtain ⟨-, loaded, back⟩ :=
    restores later _ 0xF165 rfl rfl (.execute 0xF165 0) (by decide) (by decide)
  obtain ⟨-, -, rewrites⟩ := fetches m _ 0xF165 (.execute 0xF165 0) (by decide) (by decide)
  obtain ⟨-, -, same⟩ := rewrites { fetched.state with index := 4094 } _ 0xF155 rfl rfl
    (fun _ _ => rfl) (.execute 0xF155 0) (by decide) (by decide)
  obtain ⟨-, reads⟩ :=
    splits { m with index := 4093 } _ 0xF133 (.execute 0xF133 0) (by decide) (by decide)
  obtain ⟨-, digits⟩ := reads split.state _ rfl rfl (.execute 0xF265 0)
  exact ⟨⟨runs, by decide, by decide⟩, stored.index, loaded.index, back 0, back 1, back 2, same,
    digits⟩

end Machine

end Chip8
