import Chip8.Machine.Access
import Chip8.Word

/-!
# The call stack

Return addresses in a fixed number of slots. The slots below the pointer are live; a slot keeps its
last address after it was popped, and a host can look at every slot. A depth of zero or below has no
slots, so every push is refused.
-/

namespace Chip8

/-- A stack of return addresses with `depth` slots. -/
structure CallStack (depth : Int) where
  /-- The slots, oldest first. -/
  slots : Vector Word depth.toNat
  /-- The number of live slots. -/
  pointer : Nat
  pointer_le : pointer ≤ depth.toNat
  deriving DecidableEq

namespace CallStack

/-- The depth of the machine's stack. -/
abbrev standardDepth : Int := 16

variable {depth : Int}

/-- No live slots, and zero in each. -/
def blank (depth : Int) : CallStack depth := ⟨Vector.replicate _ 0, 0, Nat.zero_le _⟩

/-- The live return addresses, oldest first. -/
def entries (s : CallStack depth) : List Word := (s.slots.take s.pointer).toList

/-- Whether every slot is live. -/
def isFull (s : CallStack depth) : Bool := depth.toNat ≤ s.pointer

/-- Pushes the word congruent to `address`; `pc` is where the call stands. -/
def push (s : CallStack depth) (address pc : Int) : Except Fault (CallStack depth) :=
  if h : s.pointer < depth.toNat then
    .ok ⟨s.slots.set s.pointer (Word.ofInt address), s.pointer + 1, h⟩
  else .error (.stackOverflow pc depth)

/-- Takes the latest return address; `pc` is where the return stands. -/
def pop (s : CallStack depth) (pc : Int) : Except Fault (Word × CallStack depth) :=
  match s with
  | ⟨_, 0, _⟩ => .error (.stackUnderflow pc)
  | ⟨slots, p + 1, h⟩ => .ok (slots[p], ⟨slots, p, Nat.le_of_succ_le h⟩)

/-- The latest return address, which stays. -/
def peek (s : CallStack depth) : Except Fault Word :=
  match s with
  | ⟨_, 0, _⟩ => .error (.outOfRange .stack (-1) (depth - 1))
  | ⟨slots, p + 1, _⟩ => .ok slots[p]

/-- The contents of any slot, live or not. -/
def slot (s : CallStack depth) (i : Int) : Except Fault Word :=
  if h : 0 ≤ i ∧ i < depth then .ok (s.slots.get ⟨i.toNat, by omega⟩)
  else .error (.outOfRange .stack i (depth - 1))

/-! ### Pushing and taking step by step -/

/-- Pushes an address. Whether there is a slot for it is asked first; then the slot is written, and
then the pointer is moved. -/
def pushing (address pc : Int) : Access Fault (CallStack depth) Unit := do
  let s ← Access.part
  if h : s.pointer < depth.toNat then
    Access.change fun t ↦ { t with slots := t.slots.set s.pointer (Word.ofInt address) h }
    Access.change fun t ↦ { t with pointer := s.pointer + 1, pointer_le := h }
  else throw (.stackOverflow pc depth)

/-- Takes the latest address. The pointer is moved, and the slot stays as it is. -/
def popping (pc : Int) : Access Fault (CallStack depth) Word := do
  match ← Access.part with
  | ⟨_, 0, _⟩ => throw (.stackUnderflow pc)
  | ⟨_, p + 1, h⟩ => do
    Access.change fun t ↦ { t with pointer := p, pointer_le := Nat.le_of_succ_le h }
    return (← Access.part).slots.get ⟨p, h⟩

/-- **A refused push has moved nothing.** -/
theorem run_pushing (s : CallStack depth) (address pc : Int) :
    (pushing address pc).run s = Access.ending s ((s.push address pc).map ((), ·)) := by
  simp only [pushing, push, EStateM.run_bind, Access.run_part]
  split
  · rfl
  · rfl

/-- **Nor has a refused pop.** -/
theorem run_popping (s : CallStack depth) (pc : Int) :
    (popping pc).run s = Access.ending s (s.pop pc) := by
  obtain ⟨slots, pointer, le⟩ := s
  cases pointer with
  | zero => rfl
  | succ p => rfl

theorem clean_pushing (address pc : Int) :
    (pushing address pc : Access Fault (CallStack depth) Unit).Clean :=
  .of_ending fun s ↦ s.run_pushing address pc

theorem clean_popping (pc : Int) : (popping pc : Access Fault (CallStack depth) Word).Clean :=
  .of_ending fun s ↦ s.run_popping pc

/-! ### The live entries -/

@[simp] theorem entries_blank : (blank depth).entries = [] := by
  simp only [entries, Vector.toList_take]
  rfl

@[simp] theorem length_entries (s : CallStack depth) : s.entries.length = s.pointer := by
  simp only [entries, Vector.length_toList]
  exact Nat.min_eq_left s.pointer_le

/-- A push is refused exactly if every slot is live. -/
theorem push_eq_error_iff (s : CallStack depth) (address pc : Int) :
    s.push address pc = .error (.stackOverflow pc depth) ↔ s.isFull = true := by
  unfold push isFull
  split
  · next h => simp [Nat.not_le.2 h]
  · next h => simp [Nat.le_of_not_lt h]

/-- A push that succeeds adds one entry at the end. -/
theorem entries_of_push {s t : CallStack depth} {address pc : Int}
    (h : s.push address pc = .ok t) : t.entries = s.entries ++ [Word.ofInt address] := by
  unfold push at h
  split at h
  · next hp =>
    cases h
    simp only [entries, Vector.toList_take, Vector.toList_set]
    rw [List.take_add_one, List.take_set_of_le (Nat.le_refl _),
      List.getElem?_set_self (by simpa using hp)]
    rfl
  · cases h

/-- A pop that succeeds takes the last entry. -/
theorem entries_of_pop {s t : CallStack depth} {w : Word} {pc : Int}
    (h : s.pop pc = .ok (w, t)) : s.entries = t.entries ++ [w] := by
  obtain ⟨slots, pointer, hle⟩ := s
  cases pointer with
  | zero => cases h
  | succ p =>
    cases h
    simp only [entries, Vector.toList_take]
    rw [List.take_add_one, List.getElem?_eq_getElem (by simp only [Vector.length_toList]; omega)]
    simp

end CallStack

end Chip8
