/-!
# Sizes that a host asks for

Memory, call stack and screen can be made in other sizes than the machine's. A host may ask for any
integer: `Extent.cells` is the number of cells that it means, or the reason why there can be none so
many, and `Extent.grid` is the same for the two sides of a grid. A size has to be an index of 64
bits before anything else, and what is an index but not below `Extent.room` has no room.
-/

namespace Chip8.Extent

/-- Why nothing of some size can be made. -/
inductive Error
  /-- The size is below zero. -/
  | negative
  /-- The size is no index of 64 bits. -/
  | noIndex
  /-- There is no room for so many cells. -/
  | noRoom
  deriving DecidableEq, Repr

/-- How many cells there is no room for. -/
def room : Nat := 0x100000000

/-- The indices of 64 bits. -/
def IsIndex (n : Int) : Prop := -0x8000000000000000 ≤ n ∧ n < 0x8000000000000000

instance (n : Int) : Decidable (IsIndex n) := inferInstanceAs (Decidable (_ ∧ _))

/-- Refuses a size that is no index or has no room; a size below zero needs none. -/
def check (size : Int) : Except Error Unit :=
  if ¬IsIndex size then .error .noIndex
  else if room ≤ size then .error .noRoom
  else .ok ()

/-- The number of cells of a size. -/
def cells (size : Int) : Except Error Nat := do
  check size
  if size < 0 then throw .negative
  return size.toNat

/-- The sides of a grid. Its room is that of its cells, so a grid without cells can be as long as an
index reaches. -/
def grid (width height : Int) : Except Error (Nat × Nat) := do
  if ¬IsIndex width ∨ ¬IsIndex height then throw .noIndex
  if width < 0 ∨ height < 0 then throw .negative
  check (width * height)
  return (width.toNat, height.toNat)

theorem check_eq_ok_iff {size : Int} :
    check size = .ok () ↔ -0x8000000000000000 ≤ size ∧ size < room := by
  have bound : room = 0x100000000 := rfl
  unfold check IsIndex
  split
  · simp only [reduceCtorEq, false_iff]
    omega
  · split
    · simp only [reduceCtorEq, false_iff]
      omega
    · simp only [true_iff]
      omega

/-- A size is accepted exactly if there is room for it, and means itself. -/
theorem cells_eq_ok_iff {size : Int} {n : Nat} : cells size = .ok n ↔ size = n ∧ n < room := by
  have accepted := @check_eq_ok_iff size
  unfold cells
  cases h : check size with
  | error e =>
    rw [h] at accepted
    simp only [reduceCtorEq, false_iff] at accepted
    constructor
    · intro h
      cases h
    · omega
  | ok _ =>
    have := accepted.1 h
    by_cases negative : size < 0
    · simp only [negative, if_true]
      constructor
      · intro h
        cases h
      · omega
    · simp only [negative, if_false]
      constructor
      · intro h
        cases h
        omega
      · rintro ⟨rfl, -⟩
        rfl

end Chip8.Extent
