import Chip8.Machine.Access

/-!
# The screen

A grid of pixels, row by row, with a flag that tells the host that there is something new to show.
Coordinates are checked, the column first, and do not wrap: drawing reduces them before it comes
here. Every change raises the flag; only the host and a reset lower it.
-/

namespace Chip8

/-- A grid of `height` rows of `width` pixels. -/
structure Screen (width height : Nat) where
  /-- The rows from the top, each from the left; `true` is a lit pixel. -/
  pixels : Vector (Vector Bool width) height
  /-- Whether something was drawn that the host has not shown. -/
  dirty : Bool
  deriving DecidableEq

namespace Screen

/-- The width of the machine's screen. -/
abbrev standardWidth : Nat := 64

/-- The height of the machine's screen. -/
abbrev standardHeight : Nat := 32

theorem width_pos : 0 < standardWidth := by decide

theorem height_pos : 0 < standardHeight := by decide

variable {width height : Nat}

/-- A dark screen with nothing to show. A row is made where there is one, so a screen without rows
takes no room however wide it is. -/
def blank (width height : Nat) : Screen width height :=
  ⟨Vector.ofFn fun _ ↦ Vector.replicate width false, false⟩

/-- The column that a coordinate names. -/
def column (width : Nat) (x : Int) : Except Fault (Fin width) :=
  if h : 0 ≤ x ∧ x < width then .ok ⟨x.toNat, by omega⟩
  else .error (.outOfRange .column x (width - 1))

/-- The row that a coordinate names. -/
def row (height : Nat) (y : Int) : Except Fault (Fin height) :=
  if h : 0 ≤ y ∧ y < height then .ok ⟨y.toNat, by omega⟩
  else .error (.outOfRange .row y (height - 1))

/-- The position that a pair of coordinates names. -/
def position (width height : Nat) (x y : Int) : Except Fault (Fin width × Fin height) := do
  let x ← column width x
  let y ← row height y
  return (x, y)

/-- Whether the pixel at a position is lit. -/
def lit (s : Screen width height) (x : Fin width) (y : Fin height) : Bool := s.pixels[y][x]

/-- The pixel at a position changed by `f`, and the flag raised. -/
def modify (s : Screen width height) (x : Fin width) (y : Fin height) (f : Bool → Bool) :
    Screen width height :=
  ⟨s.pixels.set y (s.pixels[y].set x (f s.pixels[y][x])), true⟩

/-- Whether the pixel at the coordinates is lit. -/
def get (s : Screen width height) (x y : Int) : Except Fault Bool :=
  (position width height x y).map fun (x, y) ↦ s.lit x y

/-- The screen with the pixel at the coordinates set. -/
def set (s : Screen width height) (x y : Int) (value : Bool) : Except Fault (Screen width height) :=
  (position width height x y).map fun (x, y) ↦ s.modify x y fun _ ↦ value

/-- The screen with the pixel at the coordinates toggled, and the new state of that pixel. -/
def flip (s : Screen width height) (x y : Int) : Except Fault (Bool × Screen width height) :=
  (position width height x y).map fun (x, y) ↦ (!s.lit x y, s.modify x y not)

/-- All pixels dark, and the flag raised. -/
def clear (_ : Screen width height) : Screen width height :=
  { blank width height with dirty := true }

/-- The flag raised. -/
def markDirty (s : Screen width height) : Screen width height := { s with dirty := true }

/-- The flag lowered. -/
def clearDirty (s : Screen width height) : Screen width height := { s with dirty := false }

/-- The pixels as lists, row by row. -/
def toLists (s : Screen width height) : List (List Bool) := s.pixels.toList.map Vector.toList

/-- The number of lit pixels of some rows. -/
def litCount (rows : List (List Bool)) : Nat := rows.flatten.count true

/-- The rows as text, whatever a text is made of: `on` for a lit pixel, `off` for a dark one. -/
def textRows {α : Type} (s : Screen width height) (on off : List α) : List (List α) :=
  s.toLists.map fun row ↦ row.flatMap fun lit ↦ if lit then on else off

/-- A row as a number, the leftmost pixel as its most significant bit. -/
def packRow (row : List Bool) : Nat := row.foldl (fun acc lit ↦ 2 * acc + lit.toNat) 0

/-- The rows as numbers. -/
def packedRows (s : Screen width height) : List Nat := s.toLists.map packRow

/-! ### Changing a pixel step by step -/

/-- The pixel at a position set, and the flag left alone. -/
def put (s : Screen width height) (x : Fin width) (y : Fin height) (lit : Bool) :
    Screen width height :=
  { s with pixels := s.pixels.set y (s.pixels[y].set x lit) }

/-- Sets the pixel at the coordinates. Both of them are checked first; then the pixel is written,
and then the flag is raised. -/
def setting (x y : Int) (value : Bool) : Access Fault (Screen width height) Unit := do
  let (x, y) ← Access.check (position width height x y)
  Access.change (·.put x y value)
  Access.change markDirty

/-- Toggles the pixel at the coordinates and answers its new state. -/
def flipping (x y : Int) : Access Fault (Screen width height) Bool := do
  let (x, y) ← Access.check (position width height x y)
  let lit := !(← Access.part).lit x y
  Access.change (·.put x y lit)
  Access.change markDirty
  return lit

/-- **A refused pixel has changed nothing**, the flag included. -/
theorem run_setting (s : Screen width height) (x y : Int) (value : Bool) :
    (setting x y value).run s = Access.ending s ((s.set x y value).map ((), ·)) := by
  simp only [setting, set, EStateM.run_bind]
  cases position width height x y with
  | ok p => rfl
  | error f => rfl

theorem run_flipping (s : Screen width height) (x y : Int) :
    (flipping x y).run s = Access.ending s (s.flip x y) := by
  simp only [flipping, flip, EStateM.run_bind]
  cases position width height x y with
  | ok p => rfl
  | error f => rfl

theorem clean_setting (x y : Int) (value : Bool) :
    (setting x y value : Access Fault (Screen width height) Unit).Clean :=
  .of_ending fun s ↦ s.run_setting x y value

theorem clean_flipping (x y : Int) :
    (flipping x y : Access Fault (Screen width height) Bool).Clean :=
  .of_ending fun s ↦ s.run_flipping x y

/-! ### Positions -/

/-- A position on the screen is where its coordinates are. -/
theorem position_val (x : Fin width) (y : Fin height) :
    position width height x.val y.val = .ok (x, y) := by
  have hx : (0 : Int) ≤ x.val ∧ (x.val : Int) < width := by omega
  have hy : (0 : Int) ≤ y.val ∧ (y.val : Int) < height := by omega
  rw [position, column, row, dif_pos hx, dif_pos hy]
  rfl

/-- What is at a position is answered. -/
theorem get_val (s : Screen width height) (x : Fin width) (y : Fin height) :
    s.get x.val y.val = .ok (s.lit x y) := by
  rw [get, position_val]
  rfl

/-- A flip at a position toggles the pixel there and answers its new state. -/
theorem flip_val (s : Screen width height) (x : Fin width) (y : Fin height) :
    s.flip x.val y.val = .ok (!s.lit x y, s.modify x y not) := by
  rw [flip, position_val]
  rfl

/-! ### Pixels after a change -/

@[simp] theorem lit_blank (x : Fin width) (y : Fin height) :
    (blank width height).lit x y = false := by
  simp [lit, blank]

@[simp] theorem lit_modify_self (s : Screen width height) (x : Fin width) (y : Fin height)
    (f : Bool → Bool) : (s.modify x y f).lit x y = f (s.lit x y) := by
  simp [lit, modify]

/-- A change of one pixel leaves the others alone. -/
theorem lit_modify_of_ne (s : Screen width height) {x x' : Fin width} {y y' : Fin height}
    (f : Bool → Bool) (h : x' ≠ x ∨ y' ≠ y) : (s.modify x y f).lit x' y' = s.lit x' y' := by
  by_cases hy : y' = y
  · subst hy
    have hx : x.val ≠ x'.val := fun e ↦ (h.resolve_right (· rfl)) (Fin.ext e.symm)
    simp [lit, modify, Vector.getElem_set_ne, hx]
  · have hy' : y.val ≠ y'.val := fun e ↦ hy (Fin.ext e.symm)
    simp [lit, modify, Vector.getElem_set_ne, hy']

@[simp] theorem dirty_modify (s : Screen width height) (x : Fin width) (y : Fin height)
    (f : Bool → Bool) : (s.modify x y f).dirty = true := rfl

end Screen

end Chip8
