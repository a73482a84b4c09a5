import Chip8.Proofs.Edit
import Chip8.Proofs.Footprint

/-!
# Transfers between registers and memory

Three instructions move numbers between the registers and the cells from the index register on. One
stores the registers up to `Vx`, one fetches them, and one spells a register in decimal digits. What
they leave is said cell by cell and register by register (`State.Stored`, `State.Fetched`,
`State.Spelled`). What they leave alone is known from the footprint of an instruction.

A store and a fetch need the same cells (`State.exists_exec_store_iff`,
`State.exists_exec_fetch_iff`), and the index register stays where it is. So where one of them was
completed the other is too, and it puts back what the first one took. This holds wherever the cells
are, also where they end with the memory. The main result is `Machine.transfer_of_execute`.
-/

namespace Chip8

/-! ### Cells and registers -/

namespace Memory

variable {size : Nat} {m m' : Memory size} {i k a : Nat} {bytes : List Byte}

theorem cell_of_getElem? (h : m'.cells[a]? = m.cells[a]?) : m'.cell a = m.cell a := by
  rw [cell, cell, h]

/-- Memories are the same if their cells are. -/
theorem eq_of_cell (h : ∀ a, m.cell a = m'.cell a) : m = m' := by
  obtain ⟨cells⟩ := m
  obtain ⟨cells'⟩ := m'
  refine congrArg Memory.mk (Vector.ext fun a below ↦ ?_)
  have same := h a
  rw [cell, cell, Vector.getElem?_eq_getElem below, Vector.getElem?_eq_getElem below] at same
  exact same

/-- A write is accepted exactly if there is nothing to write or it ends within memory. -/
theorem exists_writeBytes_iff :
    (∃ m', m.writeBytes i bytes = .ok m') ↔ bytes.length = 0 ∨ i + bytes.length ≤ size := by
  constructor
  · rintro ⟨m', h⟩
    obtain ⟨_, span, -⟩ := Fault.exists_of_bind_eq_ok h
    rw [checkSpan_eq_ok_iff] at span
    omega
  · intro within
    have span : checkSpan size i bytes.length = .ok () := checkSpan_ok (by omega)
    exact ⟨⟨put m.cells i bytes⟩, by rw [writeBytes, span]; rfl⟩

/-- A read is answered exactly if there is nothing to read or it ends within memory. -/
theorem exists_readBytes_iff :
    (∃ bytes, m.readBytes i k = .ok bytes) ↔ k = 0 ∨ i + k ≤ size := by
  constructor
  · rintro ⟨bytes, h⟩
    exact (readBytes_eq_ok_iff.1 h).1
  · intro within
    exact ⟨_, readBytes_eq_ok_iff.2 ⟨within, rfl⟩⟩

/-- The bytes that were written are in the cells from the address on. -/
theorem cell_of_writeBytes (h : m.writeBytes i bytes = .ok m') (hk : k < bytes.length) :
    m'.cell (i + k) = bytes[k] := by
  have within := exists_writeBytes_iff.1 ⟨m', h⟩
  obtain ⟨-, -, put⟩ := Fault.exists_of_bind_eq_ok h
  cases put
  have cells : i + bytes.length ≤ max size Font.size := by omega
  rw [cell]
  show (Memory.put m.cells i bytes)[i + k]?.getD 0 = bytes[k]
  rw [getElem?_put_add m.cells bytes hk cells]
  rfl

end Memory

namespace State

variable {s t : State} {i : Instr} {e : Effect} {x : RegIndex}

/-- The registers that are filled hold the bytes in their order. -/
theorem v_putV_add (s : State) {k j : Nat} (bytes : List Byte) {r : RegIndex} (hr : r.val = k + j)
    (hj : j < bytes.length) : (s.putV k bytes).v r = bytes[j] := by
  induction bytes generalizing s k j with
  | nil => cases hj
  | cons b bs ih =>
    have inside : k < 16 := by omega
    rw [putV, dif_pos inside]
    rcases j with - | j
    · -- The first of them is not written again.
      obtain rfl : r = ⟨k, inside⟩ := Fin.ext hr
      rw [v_putV_of_outside _ bs (.inl (Nat.lt_succ_self k)), v_setV_self]
      rfl
    · rw [ih _ (by omega) (Nat.lt_of_succ_lt_succ hj)]
      rfl

/-! ### What a transfer leaves -/

/-- A state `t` has the registers of a state `s`, and its memory but for some cells from the index
register on. -/
structure SameButCells (count : Nat) (s t : State) : Prop where
  outside : ∀ a, a < s.index.toNat ∨ s.index.toNat + count ≤ a → t.memory.cell a = s.memory.cell a
  index : t.index = s.index
  v : t.v = s.v

/-- The registers up to `Vx` are in the cells. -/
structure Stored (x : RegIndex) (s t : State) : Prop extends SameButCells (x.val + 1) s t where
  cells : ∀ k ≤ x, t.memory.cell (s.index.toNat + k.val) = s.v k

/-- Three cells hold the decimal digits of `Vx`, hundreds first. -/
structure Spelled (x : RegIndex) (s t : State) : Prop extends SameButCells 3 s t where
  digit : ∀ k < 3, (t.memory.cell (s.index.toNat + k)).toNat ≤ 9
  value : 100 * (t.memory.cell s.index.toNat).toNat +
    10 * (t.memory.cell (s.index.toNat + 1)).toNat +
    (t.memory.cell (s.index.toNat + 2)).toNat = (s.v x).toNat

/-- The registers up to `Vx` are what the cells were, and the others are the same. -/
structure Fetched (x : RegIndex) (s t : State) : Prop where
  cells : ∀ k ≤ x, t.v k = s.memory.cell (s.index.toNat + k.val)
  others : ∀ r, x < r → t.v r = s.v r
  index : t.index = s.index
  memory : t.memory = s.memory

/-- An instruction without a register to write leaves them and the cells that it does not write. -/
theorem sameButCells_of_exec (h : s.exec i = .ok e) (index : i.writesIndex = false)
    (v : ∀ r, i.writesV r = false) : SameButCells i.writtenCells s e.state := by
  have registers := registerFrame_of_exec h
  refine ⟨fun a outside ↦ ?_, registers.index index, funext fun r ↦ registers.v r (v r)⟩
  exact Memory.cell_of_getElem? (getElem?_memory_of_exec h outside)

/-- The registers up to `Vx`. -/
def upTo (s : State) (x : RegIndex) : List Byte := s.registers.v.toList.take (x.val + 1)

theorem length_upTo (s : State) (x : RegIndex) : (s.upTo x).length = x.val + 1 := by
  rw [upTo, List.length_take, Vector.length_toList]
  omega

theorem getElem_upTo {k : RegIndex} (h : k.val < (s.upTo x).length) : (s.upTo x)[k.val] = s.v k :=
  List.getElem_take.trans (Vector.getElem_toList _)

/-- **A store.** -/
theorem stored_of_exec (h : s.exec (.store x) = .ok e) : Stored x s e.state := by
  have same := sameButCells_of_exec h rfl fun _ ↦ rfl
  obtain ⟨memory, written, h⟩ := Fault.exists_of_bind_eq_ok h
  cases h
  refine ⟨same, fun k below ↦ ?_⟩
  have inside : k.val < (s.upTo x).length := by
    rw [length_upTo]
    exact Nat.lt_succ_of_le below
  refine (Memory.cell_of_writeBytes written inside).trans ?_
  exact getElem_upTo inside

/-- **Three decimal digits.** -/
theorem spelled_of_exec (h : s.exec (.digits x) = .ok e) : Spelled x s e.state := by
  have same := sameButCells_of_exec h rfl fun _ ↦ rfl
  obtain ⟨memory, written, h⟩ := Fault.exists_of_bind_eq_ok h
  cases h
  have small := (s.v x).isLt
  have cell {k : Nat} (below : k < 3) :
      memory.cell (s.index.toNat + k) = (Byte.digits (s.v x))[k] :=
    Memory.cell_of_writeBytes written below
  have hundreds : (memory.cell s.index.toNat).toNat = (s.v x).toNat / 100 := by
    refine (congrArg BitVec.toNat (cell (k := 0) (by decide))).trans ?_
    refine (BitVec.toNat_ofNat ..).trans (Nat.mod_eq_of_lt (by omega))
  have tens : (memory.cell (s.index.toNat + 1)).toNat = (s.v x).toNat / 10 % 10 := by
    refine (congrArg BitVec.toNat (cell (by decide))).trans ?_
    exact (BitVec.toNat_ofNat ..).trans (Nat.mod_eq_of_lt (by omega))
  have ones : (memory.cell (s.index.toNat + 2)).toNat = (s.v x).toNat % 10 := by
    refine (congrArg BitVec.toNat (cell (by decide))).trans ?_
    exact (BitVec.toNat_ofNat ..).trans (Nat.mod_eq_of_lt (by omega))
  refine ⟨same, fun k below ↦ ?_, ?_⟩
  · show (memory.cell (s.index.toNat + k)).toNat ≤ 9
    obtain rfl | rfl | rfl : k = 0 ∨ k = 1 ∨ k = 2 := by omega
    · rw [Nat.add_zero, hundreds]
      omega
    · rw [tens]
      omega
    · rw [ones]
      omega
  · show 100 * (memory.cell s.index.toNat).toNat +
      10 * (memory.cell (s.index.toNat + 1)).toNat +
      (memory.cell (s.index.toNat + 2)).toNat = (s.v x).toNat
    rw [hundreds, tens, ones]
    omega

/-- **A fetch.** -/
theorem fetched_of_exec (h : s.exec (.fetch x) = .ok e) : Fetched x s e.state := by
  have frame := frame_of_exec h
  have registers := registerFrame_of_exec h
  obtain ⟨bytes, read, h⟩ := Fault.exists_of_bind_eq_ok h
  cases h
  obtain ⟨-, rfl⟩ := Memory.readBytes_eq_ok_iff.1 read
  refine ⟨fun k below ↦ ?_, fun r above ↦ registers.v r ?_, registers.index rfl, frame.memory rfl⟩
  · have place : k.val = 0 + k.val := (Nat.zero_add _).symm
    refine (v_putV_add s _ place ?_).trans ?_
    · rw [List.length_map, List.length_range]
      exact Nat.lt_succ_of_le below
    · rw [List.getElem_map, List.getElem_range]
  · exact decide_eq_false (Nat.not_le.2 above)

/-! ### When a transfer is completed -/

theorem exists_exec_store_iff :
    (∃ e, s.exec (.store x) = .ok e) ↔ s.index.toNat + x.val < 4096 := by
  have writes : (∃ e, s.exec (.store x) = .ok e) ↔
      ∃ memory, s.memory.writeBytes s.index.toNat (s.upTo x) = .ok memory :=
    Fault.exists_bind_eq_ok_iff fun _ ↦ ⟨_, rfl⟩
  rw [writes, Memory.exists_writeBytes_iff, length_upTo]
  show x.val + 1 = 0 ∨ s.index.toNat + (x.val + 1) ≤ 4096 ↔ _
  omega

theorem exists_exec_digits_iff :
    (∃ e, s.exec (.digits x) = .ok e) ↔ s.index.toNat + 2 < 4096 := by
  have writes : (∃ e, s.exec (.digits x) = .ok e) ↔
      ∃ memory, s.memory.writeBytes s.index.toNat (Byte.digits (s.v x)) = .ok memory :=
    Fault.exists_bind_eq_ok_iff fun _ ↦ ⟨_, rfl⟩
  rw [writes, Memory.exists_writeBytes_iff]
  show 3 = 0 ∨ s.index.toNat + 3 ≤ 4096 ↔ _
  omega

theorem exists_exec_fetch_iff :
    (∃ e, s.exec (.fetch x) = .ok e) ↔ s.index.toNat + x.val < 4096 := by
  have reads : (∃ e, s.exec (.fetch x) = .ok e) ↔
      ∃ bytes, s.memory.readBytes s.index.toNat (x.val + 1 : Nat) = .ok bytes :=
    Fault.exists_bind_eq_ok_iff fun _ ↦ ⟨_, rfl⟩
  rw [reads, Memory.exists_readBytes_iff]
  show x.val + 1 = 0 ∨ s.index.toNat + (x.val + 1) ≤ 4096 ↔ _
  omega

/-! ### There and back -/

/-- What was stored is fetched again, if the cells and the index register were left alone. -/
theorem Fetched.v_of_stored {u r : State} (stored : Stored x s t) (memory : r.memory = t.memory)
    (index : r.index = t.index) (fetched : Fetched x r u) : ∀ k ≤ x, u.v k = s.v k := by
  intro k below
  rw [fetched.cells k below, memory, index, stored.index, stored.cells k below]

/-- What was fetched is stored where it was. -/
theorem Stored.memory_of_fetched {u : State} (fetched : Fetched x s t) (stored : Stored x t u) :
    u.memory = s.memory := by
  refine Memory.eq_of_cell fun a ↦ ?_
  have index := fetched.index
  -- Outside the cells of the transfer neither of the two writes. Inside, each cell gets the byte
  -- that was taken from it.
  by_cases outside : a < s.index.toNat ∨ s.index.toNat + (x.val + 1) ≤ a
  · rw [← fetched.memory]
    rw [← index] at outside
    exact stored.outside a outside
  · obtain ⟨k, rfl⟩ : ∃ k, a = s.index.toNat + k := ⟨a - s.index.toNat, by omega⟩
    have below : k ≤ x.val := by omega
    have cell := stored.cells ⟨k, by omega⟩ below
    rw [index, fetched.cells ⟨k, by omega⟩ below] at cell
    exact cell

end State

namespace Machine

variable {m n : Machine} {op : Opcode} {w back answer : Word}

/-- A word that is not refused is executed as the instruction that it is, and counted. -/
theorem exists_exec_of_fits (fits : op.Fits w) (h : (m.execute w).answer = .ok answer) :
    ∃ e executed, m.state.exec (op.instr w) = .ok e ∧
      (m.execute w).machine.state = { e.state with executed } := by
  obtain ⟨i, e, decodes, exec, state⟩ := exists_exec_of_execute h
  obtain rfl : op.instr w = i := Option.some.inj ((decode_of_fits fits).symm.trans decodes)
  obtain ⟨executed, counted⟩ := e.state.exists_executed_tally
  exact ⟨e, executed, exec, state.trans counted⟩

/-- A word is completed exactly if the instruction that it is has an effect. -/
theorem answer_eq_ok_iff (fits : op.Fits w) :
    (m.execute w).answer = .ok w ↔ ∃ e, m.state.exec (op.instr w) = .ok e := by
  constructor
  · intro h
    obtain ⟨e, -, exec, -⟩ := exists_exec_of_fits fits h
    exact ⟨e, exec⟩
  · rintro ⟨e, exec⟩
    exact (completed_of_exec (decode_of_fits fits) exec).1

theorem stored_of_execute (fits : Opcode.ldMemVx.Fits w) (h : (m.execute w).answer = .ok answer) :
    m.state.Stored (Word.x w) (m.execute w).machine.state := by
  obtain ⟨e, executed, exec, state⟩ := exists_exec_of_fits fits h
  rw [state]
  exact { State.stored_of_exec exec with }

theorem spelled_of_execute (fits : Opcode.ldB.Fits w) (h : (m.execute w).answer = .ok answer) :
    m.state.Spelled (Word.x w) (m.execute w).machine.state := by
  obtain ⟨e, executed, exec, state⟩ := exists_exec_of_fits fits h
  rw [state]
  exact { State.spelled_of_exec exec with }

theorem fetched_of_execute (fits : Opcode.ldVxMem.Fits w) (h : (m.execute w).answer = .ok answer) :
    m.state.Fetched (Word.x w) (m.execute w).machine.state := by
  obtain ⟨e, executed, exec, state⟩ := exists_exec_of_fits fits h
  rw [state]
  exact { State.fetched_of_exec exec with }

theorem answer_store_iff (fits : Opcode.ldMemVx.Fits w) :
    (m.execute w).answer = .ok w ↔ m.state.index.toNat + (Word.x w).val < 4096 :=
  (answer_eq_ok_iff fits).trans State.exists_exec_store_iff

theorem answer_fetch_iff (fits : Opcode.ldVxMem.Fits w) :
    (m.execute w).answer = .ok w ↔ m.state.index.toNat + (Word.x w).val < 4096 :=
  (answer_eq_ok_iff fits).trans State.exists_exec_fetch_iff

/-- **Transfers are exact, and undo each other.** A word that moves numbers between registers and
memory is completed exactly if its cells are within memory, and then it leaves what it should and
nothing else. After a store, the registers come back with a fetch of as many of them by any machine
that has the memory and the index register that the store left, whatever its other registers hold.
After a fetch, a store of as many leaves the memory as it was. -/
theorem transfer_of_execute (m : Machine) (w : Word) :
    (Opcode.ldMemVx.Fits w →
      ((m.execute w).answer = .ok w ↔ m.state.index.toNat + (Word.x w).val < 4096) ∧
      ((m.execute w).answer = .ok w →
        m.state.Stored (Word.x w) (m.execute w).machine.state ∧
        ∀ (n : Machine) (back : Word), Opcode.ldVxMem.Fits back → Word.x back = Word.x w →
          n.state.memory = (m.execute w).machine.state.memory →
          n.state.index = (m.execute w).machine.state.index →
          (n.execute back).answer = .ok back ∧
            ∀ k ≤ Word.x w, (n.execute back).machine.state.v k = m.state.v k)) ∧
    (Opcode.ldB.Fits w →
      ((m.execute w).answer = .ok w ↔ m.state.index.toNat + 2 < 4096) ∧
      ((m.execute w).answer = .ok w →
        m.state.Spelled (Word.x w) (m.execute w).machine.state)) ∧
    (Opcode.ldVxMem.Fits w →
      ((m.execute w).answer = .ok w ↔ m.state.index.toNat + (Word.x w).val < 4096) ∧
      ((m.execute w).answer = .ok w →
        m.state.Fetched (Word.x w) (m.execute w).machine.state ∧
        ∀ back : Word, Opcode.ldMemVx.Fits back → Word.x back = Word.x w →
          ((m.execute w).machine.execute back).answer = .ok back ∧
            ((m.execute w).machine.execute back).machine.state.memory = m.state.memory)) := by
  refine ⟨fun fits ↦ ⟨answer_store_iff fits, fun done ↦ ?store⟩, fun fits ↦ ⟨?_, ?_⟩,
    fun fits ↦ ⟨answer_fetch_iff fits, fun done ↦ ?fetch⟩⟩
  case store =>
    have stored := stored_of_execute fits done
    refine ⟨stored, fun n back fits' same memory index ↦ ?_⟩
    have answered : (n.execute back).answer = .ok back := by
      rw [answer_fetch_iff fits', index, stored.index, same]
      exact (answer_store_iff fits).1 done
    have fetched := fetched_of_execute fits' answered
    rw [same] at fetched
    exact ⟨answered, State.Fetched.v_of_stored stored memory index fetched⟩
  · exact (answer_eq_ok_iff fits).trans State.exists_exec_digits_iff
  · exact spelled_of_execute fits
  case fetch =>
    have fetched := fetched_of_execute fits done
    refine ⟨fetched, fun back fits' same ↦ ?_⟩
    have answered : ((m.execute w).machine.execute back).answer = .ok back := by
      rw [answer_store_iff fits', fetched.index, same]
      exact (answer_fetch_iff fits).1 done
    have stored := stored_of_execute fits' answered
    rw [same] at stored
    exact ⟨answered, State.Stored.memory_of_fetched fetched stored⟩

/-- A machine whose index register is three cells before the end of the memory. -/
def atBrim : Machine :=
  (standard 0x200).after [.setIndex 0xFFD, .setRegister 0 7, .setRegister 1 8, .setRegister 2 254,
    .writeMemory 0xFFD [5, 6]]

/-- Three registers are stored in the last three cells and fetched after one of them was changed;
that one is spelled; and three cells are fetched and stored. -/
theorem transfer_at_brim :
    atBrim.state.Stored 2 (atBrim.execute 0xF255).machine.state ∧
    (∀ k ≤ 2, (((atBrim.execute 0xF255).machine.perform (.setRegister 2 1)).machine.execute
      0xF265).machine.state.v k = atBrim.state.v k) ∧
    atBrim.state.Spelled 2 (atBrim.execute 0xF233).machine.state ∧
    (List.range' 0xFFD 3).map (atBrim.execute 0xF233).machine.state.memory.cell = [2, 5, 4] ∧
    atBrim.state.Fetched 2 (atBrim.execute 0xF265).machine.state ∧
    ((atBrim.execute 0xF265).machine.execute 0xF255).machine.state.memory = atBrim.state.memory := by
  obtain ⟨stored, back⟩ := ((transfer_of_execute atBrim 0xF255).1 (by decide)).2 (by rfl)
  have spelled := ((transfer_of_execute atBrim 0xF233).2.1 (by decide)).2 (by rfl)
  obtain ⟨fetched, again⟩ := ((transfer_of_execute atBrim 0xF265).2.2 (by decide)).2 (by rfl)
  have changed (n : Machine) : (n.perform (.setRegister 2 1)).machine.state = n.state.setV 2 1 :=
    congrArg (·.machine.state) (perform_setRegister n 2 1)
  refine ⟨stored, ?_, spelled, by decide +kernel, fetched, ?_⟩
  · exact (back _ 0xF265 (by decide) rfl (by rw [changed, State.eq_of_setV])
      (by rw [changed, State.index_setV])).2
  · exact (again 0xF255 (by decide) rfl).2

end Machine

end Chip8
