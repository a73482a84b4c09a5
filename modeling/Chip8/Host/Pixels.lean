import Chip8.Host.Argument

/-!
# The screen and its arguments

Access to the screen with any values as coordinates. A coordinate is a number in the range of its
axis. An integer is a position; a number with a fraction falls between two pixels, and there is none
to be found there.

A truth value is in range as one or zero is, but it is no position: it stands for everything or for
nothing, and an integer beside it counts rows. So a pair of coordinates selects a list of pixels
(`Host.select`). All selected pixels can be set at once; only one pixel can be looked at or toggled.
Integers select one pixel (`select_int`), and what is done with it is what the screen does at these
coordinates (`getPixel_int`, `setPixels_int`, `flipPixel_int`).
-/

namespace Chip8.Host

variable {width height : Nat}

/-- What a coordinate stands for on its axis. -/
inductive Coordinate
  | position (i : Int)
  | everything
  | nothing
  /-- Between two positions. -/
  | between
  deriving DecidableEq, Repr

/-- The coordinate that a value is on an axis of some size. -/
def coordinate (axis : IndexKind) (size : Nat) (j : Json) : Except Error Coordinate := do
  let n ← within axis size j
  return match j, n with
    | .bool true, _ => .everything
    | .bool false, _ => .nothing
    | _, .int i => .position i
    | _, .double _ => .between

/-- The row of a position that may be one of a wider axis. -/
def wholeRow (width height : Nat) (i : Int) : Except Error (List (Fin width × Fin height)) :=
  match Screen.row height i with
  | .ok y => .ok ((List.finRange width).map (·, y))
  | .error _ => .error .noPixel

/-- The pixels that two coordinates select. -/
def selected (width height : Nat) : Coordinate → Coordinate →
    Except Error (List (Fin width × Fin height))
  | .between, _ => .error .noPixel
  | _, .between => .error .noPixel
  | .position x, .position y =>
    ((Screen.position width height x y).map fun p ↦ [p]).mapError .ofFault
  | .everything, .position y => wholeRow width height y
  | .position x, .everything => wholeRow width height x
  | .position x, .nothing => (wholeRow width height x).map fun _ ↦ []
  | .everything, .everything =>
    .ok ((List.finRange height).flatMap fun y ↦ (List.finRange width).map (·, y))
  | _, _ => .ok []

/-- The pixels that two arguments select; the column is checked first. -/
def select (width height : Nat) (x y : Json) : Except Error (List (Fin width × Fin height)) := do
  let x ← coordinate .column width x
  let y ← coordinate .row height y
  selected width height x y

/-- The one pixel that two arguments select. -/
def pixel (width height : Nat) (x y : Json) : Except Error (Fin width × Fin height) := do
  match ← select width height x y with
  | [p] => return p
  | _ => throw (.argument .badValue)

/-- Whether a pixel is lit. -/
def getPixel (s : Screen width height) (x y : Json) : Except Error Bool := do
  let (x, y) ← pixel width height x y
  return s.lit x y

/-- The screen with the selected pixels set. The flag is raised even if there are none. -/
def setPixels (s : Screen width height) (x y : Json) (value : Bool) :
    Except Error (Screen width height) := do
  let pixels ← select width height x y
  return pixels.foldl (fun s (x, y) ↦ s.modify x y fun _ ↦ value) s.markDirty

/-- The screen with a pixel toggled, and the new state of that pixel. -/
def flipPixel (s : Screen width height) (x y : Json) :
    Except Error (Bool × Screen width height) := do
  let (x, y) ← pixel width height x y
  return (!s.lit x y, s.modify x y not)

/-- The rows as text. What stands for a pixel has to be a text if there is such a pixel. -/
def textRows (s : Screen width height) (on off : Json) : Except Error (List (List CodeUnit)) := do
  let units (j : Json) (lit : Bool) : Except Error (List CodeUnit) :=
    match j with
    | .string units => .ok units
    | _ => if s.toLists.any (·.contains lit) then .error .wrongKind else .ok []
  return s.textRows (← units on true) (← units off false)

/-- One side of a screen that a host asks for. A truth value is no length. -/
def side (j : Json) : Except Error Int := do
  if let .bool _ := j then throw .wrongKind
  let n ← integer j
  if Extent.IsIndex n then return n
  throw (.argument .badValue)

/-- The width and the height that a host asks for. The height is converted first. -/
def grid (width height : Json) : Except Error (Nat × Nat) := do
  let height ← side height
  let width ← side width
  (Extent.grid width height).mapError fun
    | .noRoom => .extent .noRoom
    | _ => .argument .badValue

/-! ### Integers as coordinates -/

theorem coordinate_int (axis : IndexKind) (size : Nat) (i : Int) :
    coordinate axis size (.int i) =
      if 0 ≤ i ∧ i < size then .ok (.position i)
      else .error (.ofFault (.outOfRange axis i (size - 1))) := by
  unfold coordinate within
  rw [number_int, ← outside_int]
  simp only [bind, Except.bind, Number.isWithin_int, decide_eq_true_eq]
  by_cases h : 0 ≤ i ∧ i < size
  · simp only [h, and_self, if_true]
    rfl
  · simp only [h, if_false]
    rfl

/-- Two integers select the pixel at their position, and are refused where it is. -/
theorem select_int (x y : Int) :
    select width height (.int x) (.int y) =
      ((Screen.position width height x y).map fun p ↦ [p]).mapError .ofFault := by
  unfold select
  rw [coordinate_int, coordinate_int]
  by_cases hx : 0 ≤ x ∧ x < width
  · rw [if_pos hx]
    by_cases hy : 0 ≤ y ∧ y < height
    · rw [if_pos hy]
      rfl
    · rw [if_neg hy]
      simp only [Screen.position, Screen.column, Screen.row, hx, hy, bind, Except.bind]
      rfl
  · rw [if_neg hx]
    simp only [Screen.position, Screen.column, hx, bind, Except.bind]
    rfl

theorem pixel_int (x y : Int) :
    pixel width height (.int x) (.int y) =
      (Screen.position width height x y).mapError .ofFault := by
  rw [pixel, select_int]
  rcases Screen.position width height x y with f | p
  · rfl
  · rfl

/-- A pixel at integers is looked at, set and toggled as the screen does it. -/
theorem getPixel_int (s : Screen width height) (x y : Int) :
    getPixel s (.int x) (.int y) = (s.get x y).mapError .ofFault := by
  rw [getPixel, pixel_int, Screen.get]
  rcases Screen.position width height x y with f | p
  · rfl
  · rfl

theorem setPixels_int (s : Screen width height) (x y : Int) (value : Bool) :
    setPixels s (.int x) (.int y) value = (s.set x y value).mapError .ofFault := by
  rw [setPixels, select_int, Screen.set]
  rcases Screen.position width height x y with f | p
  · rfl
  · rfl

theorem flipPixel_int (s : Screen width height) (x y : Int) :
    flipPixel s (.int x) (.int y) = (s.flip x y).mapError .ofFault := by
  rw [flipPixel, pixel_int, Screen.flip]
  rcases Screen.position width height x y with f | p
  · rfl
  · rfl

end Chip8.Host
