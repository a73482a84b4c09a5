import Chip8.Bare.Machine
import Chip8.Proofs.Step
import Mathlib.Data.List.OfFn

/-!
# A state as plain numbers

Every state of a machine is also a state of plain numbers (`State.bare`): the bytes and words are
read as numbers, and the vectors as lists. This module shows access by access that what is done to
the numbers is what is done to the state. Each of the statements is an equation for what the access
leaves (`Bare.run_setV`, `Bare.run_push`, `Bare.run_writeBytes`, and so on): the state after the
operation as numbers again, or the same fault with the numbers that there were.

The masks of the accesses are what makes this true. A number modulo 256 is the number of a byte
(`Byte.toNat_ofInt`), so a register that is set holds what the state's register holds. Where an
access has no mask (`Bare.run_writeV`), its value has to be the number of a byte.

No access ends for want of an item. What is asked for lies in the lists, since each check comes
first.
-/

namespace Chip8

variable {α : Type} {n : Nat}

/-! ### Numbers -/

/-- Bits as numbers. -/
def numbers (bs : List (BitVec n)) : List Int := bs.map fun b ↦ (b.toNat : Int)

@[simp] theorem length_numbers (bs : List (BitVec n)) : (numbers bs).length = bs.length :=
  List.length_map _

@[simp] theorem getElem?_numbers (bs : List (BitVec n)) (i : Nat) :
    (numbers bs)[i]? = bs[i]?.map fun b ↦ (b.toNat : Int) :=
  List.getElem?_map

theorem numbers_set (bs : List (BitVec n)) (i : Nat) (b : BitVec n) :
    (numbers bs).set i b.toNat = numbers (bs.set i b) :=
  List.map_set.symm

theorem Word.ofInt_add (v w : Int) : Word.ofInt (v + w) = Word.ofInt v + Word.ofInt w :=
  BitVec.ofInt_add _ _

theorem Byte.ofInt_add (v w : Int) : Byte.ofInt (v + w) = Byte.ofInt v + Byte.ofInt w :=
  BitVec.ofInt_add _ _

/-- Some numbers modulo 256 are the numbers of their bytes. -/
theorem map_emod_eq_numbers (values : List Int) :
    values.map (· % 256) = numbers (values.map Byte.ofInt) := by
  rw [numbers, List.map_map]
  exact List.map_congr_left fun value _ ↦ (Byte.toNat_ofInt value).symm

/-- The bytes of some numbers of bytes. -/
@[simp] theorem map_ofInt_numbers (bytes : List Byte) : (numbers bytes).map Byte.ofInt = bytes := by
  rw [numbers, List.map_map]
  exact List.map_id'' Byte.ofInt_toNat bytes

/-! ### Lists and vectors -/

namespace Memory

/-- A slice of memory is a slice of the list of its cells. -/
theorem slice_eq {size : Nat} (m : Memory size) (start stop : Int) :
    m.slice start stop = Sequence.slice m.cells.toList start stop := by
  have length : m.cells.toList.length = max size Font.size := Vector.length_toList
  rw [slice, Sequence.slice, length]
  -- A vector has a byte at each position, and positions end with it.
  have bound : slicePosition (max size Font.size) stop ≤ max size Font.size := by
    rw [slicePosition]
    split <;> omega
  refine List.ext_getElem? fun k ↦ ?_
  rw [List.getElem?_map, List.getElem?_take, List.getElem?_drop]
  by_cases h :
      k < slicePosition (max size Font.size) stop - slicePosition (max size Font.size) start
  · rw [List.getElem?_range' h, if_pos h, Nat.one_mul]
    show some (m.cell _) = _
    rw [cell, Vector.getElem?_toList, Vector.getElem?_eq_getElem (by omega)]
    rfl
  · rw [if_neg h, List.getElem?_eq_none (by rw [List.length_range']; omega)]
    rfl

/-- Some bytes put among the cells, as a list. -/
theorem toList_put (cells : Vector Byte n) {i : Nat} (bytes : List Byte)
    (h : i + bytes.length ≤ n) :
    (put cells i bytes).toList =
      cells.toList.take i ++ bytes ++ cells.toList.drop (i + bytes.length) := by
  induction bytes generalizing cells i with
  | nil =>
    rw [put, List.append_nil, List.length_nil, Nat.add_zero, List.take_append_drop]
  | cons b bs ih =>
    rw [List.length_cons] at h
    have here : i < n := by omega
    rw [put, dif_pos here, ih _ (by omega), Vector.toList_set, List.take_add_one,
      List.take_set_of_le (Nat.le_refl _), List.getElem?_set_self (by simpa using here),
      List.drop_set_of_lt (by omega), List.length_cons, Nat.add_assoc, Nat.add_comm 1]
    simp

end Memory

/-! ### States and machines -/

/-- A state and the last word as plain numbers. -/
def State.bare (s : State) (last : Option Word) : Bare.State where
  registers := numbers s.registers.v.toList
  index := s.index.toNat
  pc := s.pc.toNat
  cells := numbers s.memory.cells.toList
  slots := numbers s.stack.slots.toList
  pointer := s.stack.pointer
  pixels := s.screen.toLists
  dirty := s.screen.dirty
  keys := s.keypad.down.toList
  timers := s.timers
  mode := s.mode
  waitRegister := s.waitRegister.map fun x ↦ (x.val : Int)
  last := last.map fun w ↦ (w.toNat : Int)
  executed := s.executed
  random := s.random

/-- A machine as plain numbers. -/
def Machine.bare (m : Machine) : Bare.State := m.state.bare m.last

namespace Bare

variable {s : Chip8.State} {l : Option Word}

theorem index_bare : (s.bare l).index = s.index.toNat := rfl

theorem pc_bare : (s.bare l).pc = s.pc.toNat := rfl

/-- How an access to the numbers of a state ends that comes to what a function says of the state. -/
def ending (s : Chip8.State) (l : Option Word) :
    Except Fault (α × Chip8.State) → EStateM.Result Stop State α
  | .ok (a, t) => .ok a (t.bare l)
  | .error f => .error (.refused (.fault f)) (s.bare l)

/-! ### Simple accesses -/

@[simp] theorem run_found_some (a : α) (s : State) : (found (some a)).run s = .ok a s := rfl

theorem run_ensure_of_pos {p : Prop} [Decidable p] (h : p) (f : Fault) (s : State) :
    (ensure p f).run s = .ok () s := by
  rw [ensure, if_pos h]
  rfl

theorem run_ensure_of_neg {p : Prop} [Decidable p] (h : ¬p) (f : Fault) (s : State) :
    (ensure p f).run s = .error (.refused (.fault f)) s := by
  rw [ensure, if_neg h]
  rfl

/-! ### Registers -/

theorem run_readV (s : Chip8.State) (l : Option Word) (x : RegIndex) :
    (readV x.val).run (s.bare l) = .ok ((s.v x).toNat : Int) (s.bare l) := by
  have item : Sequence.item? (s.bare l).registers x.val = some ((s.v x).toNat : Int) := by
    rw [Sequence.item?_natCast, State.bare, getElem?_numbers, Vector.getElem?_toList,
      Vector.getElem?_eq_getElem x.isLt]
    rfl
  rw [readV, EStateM.run_bind, Access.run_part]
  simp only [item]
  rfl

/-- A register is written as it is if the number is that of a byte. -/
theorem run_writeV (s : Chip8.State) (l : Option Word) (x : RegIndex) {b : Byte} {value : Int}
    (h : value = b.toNat) :
    (writeV x.val value).run (s.bare l) = .ok () ((s.setV x b).bare l) := by
  have set : Sequence.setItem? (s.bare l).registers x.val value =
      some (numbers (s.setV x b).registers.v.toList) := by
    have inside : x.val < (s.bare l).registers.length := by
      simp [State.bare]
    rw [Sequence.setItem?_natCast inside, h]
    show some ((numbers _).set _ _) = some (numbers (s.registers.v.set x b).toList)
    rw [numbers_set, Vector.toList_set]
  rw [writeV, EStateM.run_bind, Access.run_part]
  simp only [set]
  rfl

theorem run_setV (s : Chip8.State) (l : Option Word) (x : RegIndex) (value : Int) :
    (setV x.val value).run (s.bare l) = .ok () ((s.setV x (Byte.ofInt value)).bare l) := by
  have inside : (0 : Int) ≤ x.val ∧ (x.val : Int) < 16 := by omega
  rw [setV, EStateM.run_bind, run_ensure_of_pos inside]
  exact run_writeV s l x (Byte.toNat_ofInt value).symm

/-- A register that a host names. -/
theorem run_setV_of_host (s : Chip8.State) (l : Option Word) (i value : Int) :
    (setV i value).run (s.bare l) =
      ending s l ((s.registers.write i value).map fun registers ↦ ((), { s with registers })) := by
  rw [Registers.write, RegIndex.ofInt]
  by_cases inside : 0 ≤ i ∧ i < 16
  · obtain ⟨n, rfl⟩ := Int.eq_ofNat_of_zero_le inside.1
    have below : n < 16 := by omega
    rw [dif_pos inside]
    exact run_setV s l ⟨n, below⟩ value
  · rw [dif_neg inside, setV, EStateM.run_bind, run_ensure_of_neg inside]
    rfl

theorem run_setFlag (s : Chip8.State) (l : Option Word) (flag : Bool) :
    (setFlag (flagOf flag)).run (s.bare l) = .ok () ((s.setFlag flag).bare l) := by
  cases flag with
  | false => exact run_writeV s l .flag rfl
  | true => exact run_writeV s l .flag rfl

theorem run_setIndex (s : Chip8.State) (l : Option Word) (value : Int) :
    (setIndex value).run (s.bare l) = .ok () ((s.setIndex (Word.ofInt value)).bare l) := by
  rw [setIndex, ← Word.toNat_ofInt]
  rfl

theorem run_setPc (s : Chip8.State) (l : Option Word) (value : Int) :
    (setPc value).run (s.bare l) = .ok () ((s.setPc (Word.ofInt value)).bare l) := by
  rw [setPc, ← Word.toNat_ofInt]
  rfl

theorem run_advance (s : Chip8.State) (l : Option Word) (amount : Int) :
    (advance amount).run (s.bare l) = .ok () ((s.setPc (s.pc + Word.ofInt amount)).bare l) := by
  have moved : Word.ofInt ((s.bare l).pc + amount) = s.pc + Word.ofInt amount := by
    rw [Word.ofInt_add]
    exact congrArg (· + _) (Word.ofInt_toNat s.pc)
  rw [advance, EStateM.run_bind, Access.run_part]
  simp only
  rw [run_setPc, moved]

/-- To move past one instruction is to advance. -/
theorem run_advance_two (s : Chip8.State) (l : Option Word) :
    (advance 2).run (s.bare l) = .ok () (s.advance.bare l) :=
  run_advance s l 2

/-! ### Call stack -/

theorem run_push (s : Chip8.State) (l : Option Word) (address pc : Int) :
    (push address pc).run (s.bare l) =
      ending s l ((s.stack.push address pc).map fun stack ↦ ((), { s with stack })) := by
  by_cases room : s.stack.pointer < CallStack.standardDepth.toNat
  · have below : ((s.bare l).pointer : Int) < CallStack.standardDepth := by
      show (s.stack.pointer : Int) < _
      omega
    have set : Sequence.setItem? (s.bare l).slots (s.bare l).pointer (address % 65536) =
        some (numbers (s.stack.slots.set s.stack.pointer (Word.ofInt address) room).toList) := by
      have inside : s.stack.pointer < (s.bare l).slots.length := by
        simpa [State.bare] using room
      show Sequence.setItem? _ (s.stack.pointer : Int) _ = _
      rw [Sequence.setItem?_natCast inside, ← Word.toNat_ofInt]
      show some ((numbers _).set _ _) = _
      rw [numbers_set, Vector.toList_set]
    rw [push, EStateM.run_bind, Access.run_part, CallStack.push, dif_pos room]
    simp only [EStateM.run_bind, run_ensure_of_pos below, set]
    rfl
  · have full : ¬((s.bare l).pointer : Int) < CallStack.standardDepth := by
      show ¬(s.stack.pointer : Int) < _
      omega
    rw [push, EStateM.run_bind, Access.run_part, CallStack.push, dif_neg room]
    simp only [EStateM.run_bind, run_ensure_of_neg full]
    rfl

/-- A pop that finds an address. -/
theorem run_pop_of_item {t : State} {a : Int} (live : 0 < t.pointer)
    (item : Sequence.item? t.slots (t.pointer - 1) = some a) (pc : Int) :
    (pop pc).run t = .ok a { t with pointer := t.pointer - 1 } := by
  rw [pop, EStateM.run_bind, Access.run_part]
  simp only [EStateM.run_bind, run_ensure_of_pos live, Access.run_change, Access.run_part, item]
  rfl

theorem run_pop (s : Chip8.State) (l : Option Word) (pc : Int) :
    (pop pc).run (s.bare l) =
      ending s l ((s.stack.pop pc).map fun r ↦ ((r.1.toNat : Int), { s with stack := r.2 })) := by
  rcases stack : s.stack with ⟨slots, pointer, le⟩
  have pointer_bare : (s.bare l).pointer = pointer := by rw [State.bare, stack]
  have slots_bare : (s.bare l).slots = numbers slots.toList := by rw [State.bare, stack]
  cases pointer with
  | zero =>
    have none : ¬0 < (s.bare l).pointer := by omega
    rw [pop, EStateM.run_bind, Access.run_part]
    simp only [EStateM.run_bind, run_ensure_of_neg none]
    rfl
  | succ p =>
    have live : 0 < (s.bare l).pointer := by omega
    have under : (s.bare l).pointer - 1 = p := by omega
    have item : Sequence.item? (s.bare l).slots ((s.bare l).pointer - 1) =
        some ((slots.get ⟨p, le⟩).toNat : Int) := by
      rw [under, slots_bare, Sequence.item?_natCast, getElem?_numbers, Vector.getElem?_toList,
        Vector.getElem?_eq_getElem le]
      rfl
    -- The slot that was read is not cleared.
    have left : { s.bare l with pointer := (p : Int) } =
        State.bare { s with stack := ⟨slots, p, Nat.le_of_succ_le le⟩ } l := by
      simp only [State.bare, stack]
      rfl
    rw [run_pop_of_item live item, under, left]
    rfl

/-! ### Memory -/

theorem run_checkSpan (s : Chip8.State) (l : Option Word) (address count : Int) :
    (checkSpan address count).run (s.bare l) =
      ending s l ((Memory.checkSpan Memory.standardSize address count).map (·, s)) := by
  rw [checkSpan]
  cases Memory.checkSpan Memory.standardSize address count with
  | ok u => rfl
  | error f => rfl

/-- A cell of memory, as a number. -/
theorem item?_cells (s : Chip8.State) (l : Option Word) {i : Nat} (h : i < Memory.standardSize) :
    Sequence.item? (s.bare l).cells i = some ((s.memory.cell i).toNat : Int) := by
  have inside : i < max Memory.standardSize Font.size := Nat.lt_of_lt_of_le h (Nat.le_max_left ..)
  rw [Sequence.item?_natCast, Memory.cell, State.bare, getElem?_numbers, Vector.getElem?_toList,
    Vector.getElem?_eq_getElem inside]
  rfl

theorem run_readWord (s : Chip8.State) (l : Option Word) (address : Int) :
    (readWord address).run (s.bare l) =
      ending s l ((s.memory.readWord address).map fun w ↦ ((w.toNat : Int), s)) := by
  rw [readWord, EStateM.run_bind, run_checkSpan, Memory.readWord]
  cases span : Memory.checkSpan Memory.standardSize address 2 with
  | error f => rfl
  | ok u =>
    obtain ⟨start, within⟩ := (Memory.checkSpan_eq_ok_iff.1 span).resolve_left (by decide)
    obtain ⟨i, rfl⟩ := Int.eq_ofNat_of_zero_le start
    have high := item?_cells s l (i := i) (by omega)
    have low := item?_cells s l (i := i + 1) (by omega)
    have joined :
        Int.lor (((s.memory.cell i).toNat : Int) <<< (8 : Nat)) (s.memory.cell (i + 1)).toNat =
          ((Word.ofBytes (s.memory.cell i) (s.memory.cell (i + 1))).toNat : Int) := by
      rw [Word.ofBytes, BitVec.toNat_append]
      rfl
    rw [Int.natCast_succ] at low
    simp only [ending, Except.map, EStateM.run_bind, Access.run_part, high, low, run_found_some,
      EStateM.run_pure, joined]
    rfl

theorem run_readBytes (s : Chip8.State) (l : Option Word) (address count : Int) :
    (readBytes address count).run (s.bare l) =
      ending s l ((s.memory.readBytes address count).map fun bytes ↦ (numbers bytes, s)) := by
  rw [readBytes, EStateM.run_bind, run_checkSpan, Memory.readBytes]
  cases Memory.checkSpan Memory.standardSize address count with
  | error f => rfl
  | ok u =>
    show EStateM.Result.ok (Sequence.slice (numbers _) _ _) (s.bare l) = _
    rw [numbers, Sequence.slice_map, ← Memory.slice_eq]
    rfl

/-- A slice of the cells replaced is some bytes put there. -/
theorem setSlice_cells {m : Memory Memory.standardSize} {address : Int} {bytes : List Byte}
    (span : Memory.checkSpan Memory.standardSize address bytes.length = .ok ()) :
    Sequence.setSlice (numbers m.cells.toList) address (address + bytes.length) (numbers bytes) =
      numbers (Memory.put m.cells address.toNat bytes).toList := by
  rcases Memory.checkSpan_eq_ok_iff.1 span with none | ⟨start, within⟩
  · -- An empty span may be anywhere, and its bounds are moved to the nearest cells.
    have empty : bytes = [] := List.eq_nil_of_length_eq_zero (by omega)
    subst empty
    rw [List.length_nil, Int.natCast_zero, Int.add_zero]
    exact Sequence.setSlice_self_nil _ _
  · obtain ⟨i, rfl⟩ := Int.eq_ofNat_of_zero_le start
    have room : i + bytes.length ≤ max Memory.standardSize Font.size := by omega
    have inside : i + (numbers bytes).length ≤ (numbers m.cells.toList).length := by
      simpa using room
    have replaced := Sequence.setSlice_of_within inside
    rw [length_numbers] at replaced
    rw [replaced, Int.toNat_natCast, Memory.toList_put m.cells bytes room]
    simp only [numbers, List.map_append, List.map_take, List.map_drop]

theorem run_writeBytes (s : Chip8.State) (l : Option Word) (address : Int) (values : List Int) :
    (writeBytes address values).run (s.bare l) =
      ending s l ((s.memory.writeBytes address (values.map Byte.ofInt)).map fun memory ↦
        ((), { s with memory })) := by
  have length : (values.map (· % 256)).length = (values.map Byte.ofInt).length := by
    rw [List.length_map, List.length_map]
  rw [writeBytes, EStateM.run_bind, length, run_checkSpan, Memory.writeBytes]
  cases span : Memory.checkSpan Memory.standardSize address (values.map Byte.ofInt).length with
  | error f => rfl
  | ok u =>
    have replaced : Sequence.setSlice (s.bare l).cells address
        (address + (values.map Byte.ofInt).length) (values.map (· % 256)) =
        numbers (Memory.put s.memory.cells address.toNat (values.map Byte.ofInt)).toList := by
      rw [map_emod_eq_numbers]
      exact setSlice_cells span
    simp only [ending, Except.map, Access.run_change, replaced]
    rfl

/-- The end of a program is checked before it is written. -/
theorem run_load (s : Chip8.State) (l : Option Word) (values : List Int) (origin : Int)
    (bytes : Memory.stray? values = none) :
    (load values origin).run (s.bare l) =
      ending s l ((s.memory.load (values.map Byte.ofInt) origin).map fun memory ↦
        ((), { s with memory })) := by
  simp only [load, bytes]
  rw [EStateM.run_bind, Memory.load, List.length_map]
  by_cases fits : origin + (values.length : Int) ≤ Memory.standardSize
  · rw [run_ensure_of_pos fits, if_neg (by omega)]
    exact run_writeBytes s l origin values
  · rw [run_ensure_of_neg fits, if_pos (by omega)]
    rfl

/-! ### Screen -/

/-- The row at a position. -/
theorem item?_pixels (s : Chip8.State) (l : Option Word) (y : Fin Screen.standardHeight) :
    Sequence.item? (s.bare l).pixels y.val = some s.screen.pixels[y].toList := by
  rw [Sequence.item?_natCast, State.bare, Screen.toLists, List.getElem?_map, Vector.getElem?_toList,
    Vector.getElem?_eq_getElem y.isLt]
  rfl

theorem run_checkPixel (s : State) (x y : Int) :
    (checkPixel x y).run s =
      match Screen.position Screen.standardWidth Screen.standardHeight x y with
      | .ok _ => .ok () s
      | .error f => .error (.refused (.fault f)) s := by
  rw [checkPixel, EStateM.run_bind, Screen.position, Screen.column, Screen.row]
  by_cases column : 0 ≤ x ∧ x < (Screen.standardWidth : Int)
  · rw [run_ensure_of_pos column, dif_pos column]
    by_cases row : 0 ≤ y ∧ y < (Screen.standardHeight : Int)
    · rw [dif_pos row]
      exact run_ensure_of_pos row _ s
    · rw [dif_neg row]
      exact run_ensure_of_neg row _ s
  · rw [run_ensure_of_neg column, dif_neg column]
    rfl

/-- Coordinates that are accepted are those of their position. -/
theorem eq_of_position {x y : Int} {p : Fin Screen.standardWidth × Fin Screen.standardHeight}
    (h : Screen.position Screen.standardWidth Screen.standardHeight x y = .ok p) :
    x = p.1.val ∧ y = p.2.val := by
  rw [Screen.position, Screen.column, Screen.row] at h
  by_cases column : 0 ≤ x ∧ x < (Screen.standardWidth : Int)
  · by_cases row : 0 ≤ y ∧ y < (Screen.standardHeight : Int)
    · rw [dif_pos column, dif_pos row] at h
      cases h
      exact ⟨(Int.toNat_of_nonneg column.1).symm, (Int.toNat_of_nonneg row.1).symm⟩
    · rw [dif_pos column, dif_neg row] at h
      cases h
  · rw [dif_neg column] at h
    cases h

section Pixel

variable (x : Fin Screen.standardWidth) (y : Fin Screen.standardHeight)

theorem run_readPixel (s : Chip8.State) (l : Option Word) :
    (readPixel x.val y.val).run (s.bare l) = .ok (s.screen.lit x y) (s.bare l) := by
  have item : Sequence.item? s.screen.pixels[y].toList x.val = some (s.screen.lit x y) := by
    rw [Sequence.item?_natCast, Vector.getElem?_toList, Vector.getElem?_eq_getElem x.isLt]
    rfl
  rw [readPixel, EStateM.run_bind, Access.run_part]
  simp only [EStateM.run_bind, item?_pixels, run_found_some, item]

theorem run_writePixel (s : Chip8.State) (l : Option Word) (lit : Bool) :
    (writePixel x.val y.val lit).run (s.bare l) =
      .ok () (State.bare { s with screen := s.screen.put x y lit } l) := by
  have row : Sequence.setItem? s.screen.pixels[y].toList x.val lit =
      some (s.screen.pixels[y].set x lit).toList := by
    rw [Sequence.setItem?_natCast (by simp), Vector.toList_set]
  have grid : Sequence.setItem? (s.bare l).pixels y.val (s.screen.pixels[y].set x lit).toList =
      some (s.screen.put x y lit).toLists := by
    have inside : y.val < (s.bare l).pixels.length := by
      simp [State.bare, Screen.toLists]
    have placed : (s.screen.put x y lit).toLists =
        s.screen.toLists.set y.val (s.screen.pixels[y].set x lit).toList := by
      show (s.screen.pixels.set y _).toList.map Vector.toList = _
      rw [Vector.toList_set, List.map_set]
      rfl
    rw [Sequence.setItem?_natCast inside, placed]
    rfl
  rw [writePixel, EStateM.run_bind, Access.run_part]
  simp only [EStateM.run_bind, item?_pixels, run_found_some, row, grid]
  rfl

end Pixel

theorem run_setPixel (s : Chip8.State) (l : Option Word) (x y : Int) (lit : Bool) :
    (setPixel x y lit).run (s.bare l) =
      ending s l ((s.screen.set x y lit).map fun screen ↦ ((), { s with screen })) := by
  rw [setPixel, EStateM.run_bind, run_checkPixel, Screen.set]
  cases found : Screen.position Screen.standardWidth Screen.standardHeight x y with
  | error f => rfl
  | ok p =>
    obtain ⟨rfl, rfl⟩ := eq_of_position found
    simp only [EStateM.run_bind, run_writePixel]
    rfl

theorem run_flip (s : Chip8.State) (l : Option Word) (x y : Int) :
    (flip x y).run (s.bare l) =
      ending s l ((s.screen.flip x y).map fun r ↦ (r.1, { s with screen := r.2 })) := by
  rw [flip, EStateM.run_bind, run_checkPixel, Screen.flip]
  cases found : Screen.position Screen.standardWidth Screen.standardHeight x y with
  | error f => rfl
  | ok p =>
    obtain ⟨rfl, rfl⟩ := eq_of_position found
    simp only [EStateM.run_bind, run_readPixel, run_writePixel]
    rfl

/-- A screen with every pixel dark. -/
theorem toLists_blank {width height : Nat} (s : Screen width height) :
    s.toLists.map (fun row ↦ row.map fun _ ↦ false) = (Screen.blank width height).toLists := by
  refine List.ext_getElem (by simp [Screen.toLists]) fun i _ _ ↦ ?_
  refine List.ext_getElem (by simp [Screen.toLists, Screen.blank]) fun j _ _ ↦ ?_
  simp [Screen.toLists, Screen.blank]

theorem run_clearScreen (s : Chip8.State) (l : Option Word) :
    clearScreen.run (s.bare l) = .ok () (State.bare { s with screen := s.screen.clear } l) := by
  have dark : (s.bare l).pixels.map (fun row ↦ row.map fun _ ↦ false) = s.screen.clear.toLists :=
    toLists_blank s.screen
  rw [clearScreen, EStateM.run_bind, darken, Access.run_change, dark]
  rfl

/-! ### Keypad -/

theorem run_checkKey (s : State) (i : Int) :
    (checkKey i).run s =
      match Keypad.key i with
      | .ok _ => .ok () s
      | .error f => .error (.refused (.fault f)) s := by
  rw [checkKey, Keypad.key]
  by_cases h : 0 ≤ i ∧ i < 16
  · rw [dif_pos h]
    exact run_ensure_of_pos h _ s
  · rw [dif_neg h]
    exact run_ensure_of_neg h _ s

theorem run_turn (s : Chip8.State) (l : Option Word) (down : Bool) (i : Int) :
    (turn down i).run (s.bare l) =
      ending s l ((Keypad.key i).map fun k ↦
        ((), { s with keypad := ⟨s.keypad.down.set k.val down k.isLt⟩ })) := by
  rw [turn, EStateM.run_bind, run_checkKey]
  cases found : Keypad.key i with
  | error f => rfl
  | ok k =>
    obtain rfl := Keypad.key_eq_ok_iff.1 found
    have set : Sequence.setItem? (s.bare l).keys k.val down =
        some (s.keypad.down.set k.val down k.isLt).toList := by
      have inside : k.val < (s.bare l).keys.length := by
        simp [State.bare]
      rw [Sequence.setItem?_natCast inside, Vector.toList_set]
      rfl
    simp only [EStateM.run_bind, Access.run_part, set]
    rfl

theorem run_isDown (s : Chip8.State) (l : Option Word) (i : Int) :
    (isDown i).run (s.bare l) = ending s l ((s.keypad.isDown i).map (·, s)) := by
  rw [isDown, EStateM.run_bind, run_checkKey, Keypad.isDown]
  cases found : Keypad.key i with
  | error f => rfl
  | ok k =>
    obtain rfl := Keypad.key_eq_ok_iff.1 found
    have item : Sequence.item? (s.bare l).keys k.val = some s.keypad.down[k] := by
      rw [Sequence.item?_natCast, State.bare, Vector.getElem?_toList,
        Vector.getElem?_eq_getElem k.isLt]
      rfl
    simp only [EStateM.run_bind, Access.run_part, item]
    rfl

/-- One more key at the end of a scan replaces the one found before, if it is down. -/
theorem scan_concat (i : Int) (key : Option Int) (keys : List Bool) (down : Bool) :
    scan i key (keys ++ [down]) =
      if down then some (i + keys.length) else scan i key keys := by
  induction keys generalizing i key with
  | nil => simp [scan]
  | cons k keys ih =>
    have index : i + 1 + keys.length = i + (k :: keys).length := by
      rw [List.length_cons]
      omega
    rw [List.cons_append, scan, ih, scan, index]

/-- **A scan finds the last key that is down.** -/
theorem scan_ofFn {n : Nat} (down : Fin n → Bool) :
    scan 0 none (List.ofFn down) =
      ((List.finRange n).filter down).getLast?.map fun i ↦ (i.val : Int) := by
  -- The last key is taken off: it is the highest if it is down, and makes no difference if not.
  induction n with
  | zero => rfl
  | succ n ih =>
    have before : ((List.finRange n).map Fin.castSucc).filter down =
        ((List.finRange n).filter fun i ↦ down i.castSucc).map Fin.castSucc :=
      List.filter_map
    rw [List.ofFn_succ', List.concat_eq_append, scan_concat, ih, List.finRange_succ_last,
      List.filter_append, before, List.filter_cons, List.length_ofFn, List.filter_nil]
    cases down (Fin.last n) with
    | true => simp
    | false =>
      rw [if_neg nofun, if_neg nofun, List.append_nil, List.getLast?_map, Option.map_map]
      rfl

theorem run_highest? (s : Chip8.State) (l : Option Word) :
    highest?.run (s.bare l) = .ok (s.keypad.highest?.map fun k ↦ (k.val : Int)) (s.bare l) := by
  have keys : s.keypad.down.toList = List.ofFn fun i : Fin 16 ↦ s.keypad.down[i] :=
    List.ext_getElem (by simp) fun i _ _ ↦ by
      rw [List.getElem_ofFn]
      rfl
  have found : scan 0 none (s.bare l).keys = s.keypad.highest?.map fun k ↦ (k.val : Int) := by
    rw [State.bare, keys]
    exact scan_ofFn _
  rw [highest?, EStateM.run_bind, Access.run_part]
  simp only [found]
  rfl

/-! ### Timers and random bytes -/

theorem run_passTime (s : Chip8.State) (l : Option Word)
    (f : Timers → Except Timers.Error (Int × Timers)) :
    (passTime f).run (s.bare l) =
      match f s.timers with
      | .ok (ticks, timers) => .ok ticks (State.bare { s with timers } l)
      | .error e => .error (.refused (.timer e)) (s.bare l) := by
  have timers : (s.bare l).timers = s.timers := rfl
  rw [passTime, EStateM.run_bind, Access.run_part]
  simp only [timers]
  cases f s.timers with
  | ok r => rfl
  | error e => rfl

theorem run_drawByte (s : Chip8.State) (l : Option Word) :
    drawByte.run (s.bare l) =
      .ok (s.random.next.1.toNat : Int) (State.bare { s with random := s.random.next.2 } l) := rfl

end Bare

end Chip8
