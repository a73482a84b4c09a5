import Chip8.Machine.Memory

/-!
# Items and slices of lists

A list as a language with dynamic lists has it. An index may be any integer, a negative one counts
from the end, and an index that no item has is refused. The bounds of a slice are moved to the
nearest positions that exist, so a slice always has an answer. A slice can be replaced by any other
list, and then the whole becomes longer or shorter: that it does not is a fact about the bounds and
the number of items (`setSlice_of_within`, `length_setSlice`).
-/

namespace Chip8.Sequence

variable {α β : Type} {xs ys : List α} {i k : Nat} {a : α}

/-- The position that an index means; it need not exist. -/
def position (length : Nat) (i : Int) : Int := if i < 0 then length + i else i

/-- The item at an index. -/
def item? (xs : List α) (i : Int) : Option α :=
  if 0 ≤ position xs.length i then xs[(position xs.length i).toNat]? else none

/-- The list with another item at an index. -/
def setItem? (xs : List α) (i : Int) (a : α) : Option (List α) :=
  if 0 ≤ position xs.length i ∧ position xs.length i < xs.length then
    some (xs.set (position xs.length i).toNat a)
  else none

/-- The items from one bound up to the other. -/
def slice (xs : List α) (start stop : Int) : List α :=
  let lo := Memory.slicePosition xs.length start
  let hi := Memory.slicePosition xs.length stop
  (xs.drop lo).take (hi - lo)

/-- The list with other items from one bound up to the other. -/
def setSlice (xs : List α) (start stop : Int) (ys : List α) : List α :=
  let lo := Memory.slicePosition xs.length start
  let hi := Memory.slicePosition xs.length stop
  xs.take lo ++ ys ++ xs.drop (max lo hi)

/-! ### Items -/

theorem position_natCast (length i : Nat) : position length i = i := by
  rw [position, if_neg (by omega)]

@[simp] theorem item?_natCast (xs : List α) (i : Nat) : item? xs i = xs[i]? := by
  rw [item?, position_natCast, if_pos (by omega), Int.toNat_natCast]

theorem setItem?_natCast (h : i < xs.length) (a : α) : setItem? xs i a = some (xs.set i a) := by
  rw [setItem?, position_natCast, if_pos (by omega), Int.toNat_natCast]

/-- An item that is found is one of the list. -/
theorem mem_of_item? {i : Int} (h : item? xs i = some a) : a ∈ xs := by
  rw [item?] at h
  split at h
  · exact List.mem_of_getElem? h
  · cases h

/-- **To set an item keeps the length**, wherever it is. -/
theorem length_of_setItem? {i : Int} (h : setItem? xs i a = some ys) : ys.length = xs.length := by
  rw [setItem?] at h
  split at h
  · cases h
    exact List.length_set
  · cases h

/-- The items of a list after one was set are that one and those from before. -/
theorem mem_of_setItem? {i : Int} {b : α} (h : setItem? xs i a = some ys) (mem : b ∈ ys) :
    b ∈ xs ∨ b = a := by
  rw [setItem?] at h
  split at h
  · cases h
    exact List.mem_or_eq_of_mem_set mem
  · cases h

/-! ### Slices -/

theorem slicePosition_of_le {length : Nat} (h : i ≤ length) :
    Memory.slicePosition length i = i := by
  rw [Memory.slicePosition, if_neg (by omega), Int.toNat_natCast]
  exact Nat.min_eq_left h

/-- A slice within a list. -/
theorem slice_of_within (h : i + k ≤ xs.length) : slice xs i (i + k) = (xs.drop i).take k := by
  have stop : ((i + k : Nat) : Int) = i + k := Int.natCast_add i k
  rw [slice, ← stop, slicePosition_of_le (Nat.le_of_add_right_le h), slicePosition_of_le h,
    Nat.add_sub_cancel_left]

/-- Of a list with every item changed, a slice is the slice of the list with every item changed. -/
theorem slice_map (f : α → β) (xs : List α) (start stop : Int) :
    slice (xs.map f) start stop = (slice xs start stop).map f := by
  rw [slice, slice, List.length_map, ← List.map_drop, ← List.map_take]

/-- The items of a slice are items of the list. -/
theorem mem_of_mem_slice {start stop : Int} (h : a ∈ slice xs start stop) : a ∈ xs :=
  List.mem_of_mem_drop (List.mem_of_mem_take h)

/-- A slice within a list, replaced by as many items as it had. -/
theorem setSlice_of_within (h : i + ys.length ≤ xs.length) :
    setSlice xs i (i + ys.length) ys = xs.take i ++ ys ++ xs.drop (i + ys.length) := by
  have stop : ((i + ys.length : Nat) : Int) = i + ys.length := Int.natCast_add i ys.length
  rw [setSlice, ← stop, slicePosition_of_le (Nat.le_of_add_right_le h), slicePosition_of_le h,
    Nat.max_eq_right (Nat.le_add_right ..)]

/-- No items put between two bounds that are the same change nothing. -/
theorem setSlice_self_nil (xs : List α) (i : Int) : setSlice xs i i [] = xs := by
  rw [setSlice, List.append_nil, Nat.max_self]
  exact List.take_append_drop ..

/-- The slice of all items, replaced. -/
theorem setSlice_all (xs ys : List α) : setSlice xs 0 xs.length ys = ys := by
  have start : Memory.slicePosition xs.length 0 = 0 := slicePosition_of_le (Nat.zero_le _)
  rw [setSlice, start, slicePosition_of_le (Nat.le_refl _), Nat.max_eq_right (Nat.zero_le _),
    List.drop_length, List.append_nil]
  rfl

/-- **A slice that is replaced by as many items as it had keeps the length.** -/
theorem length_setSlice {start : Int} (h : 0 ≤ start) (within : start + ys.length ≤ xs.length) :
    (setSlice xs start (start + ys.length) ys).length = xs.length := by
  obtain ⟨i, rfl⟩ := Int.eq_ofNat_of_zero_le h
  have inside : i + ys.length ≤ xs.length := by omega
  rw [setSlice_of_within inside, List.length_append, List.length_append, List.length_take,
    List.length_drop]
  omega

/-- The items after a slice was replaced are the new ones and those from before. -/
theorem mem_of_mem_setSlice {start stop : Int} (h : a ∈ setSlice xs start stop ys) :
    a ∈ xs ∨ a ∈ ys := by
  rw [setSlice, List.mem_append, List.mem_append] at h
  rcases h with (before | new) | behind
  · exact .inl (List.mem_of_mem_take before)
  · exact .inr new
  · exact .inl (List.mem_of_mem_drop behind)

end Chip8.Sequence
