import Chip8.Machine.Screen
import Chip8.Word

/-!
# Drawing sprites

A sprite is a list of bytes, one for each row, the leftmost pixel as the most significant bit. To
draw it is to toggle the pixels under its set bits, with coordinates that wrap round at the edges. A
pixel that was lit and goes dark is erased; whether there was one is the collision answer of
drawing.
-/

namespace Chip8.Screen

variable {width height : Nat}

/-- The number of pixels in a sprite row. -/
def spriteWidth : Nat := 8

/-- The offsets of the set bits of a sprite row, from the left. -/
def rowOffsets (row : Byte) : List Nat := (List.range spriteWidth).filter fun c ↦ row.getMsbD c

/-- The pixel at some coordinates, which wrap round at the edges. -/
def wrap (hw : 0 < width) (hh : 0 < height) (x y : Nat) : Fin width × Fin height :=
  (⟨x % width, Nat.mod_lt x hw⟩, ⟨y % height, Nat.mod_lt y hh⟩)

/-- The pixels of a sprite whose top left corner is at column `x` and row `y`, row by row. -/
def spritePixels (hw : 0 < width) (hh : 0 < height) (x y : Nat) :
    List Byte → List (Fin width × Fin height)
  | [] => []
  | row :: rows =>
    (rowOffsets row).map (fun c ↦ wrap hw hh (x + c) y) ++ spritePixels hw hh x (y + 1) rows

/-- Toggles some pixels one after the other and answers whether one of them was lit when its turn
came. -/
def toggleAll (s : Screen width height) :
    List (Fin width × Fin height) → Screen width height × Bool
  | [] => (s, false)
  | (x, y) :: rest =>
    let erased := s.lit x y
    let (s, more) := toggleAll (s.modify x y not) rest
    (s, erased || more)

/-- Draws a sprite and raises the flag, also for a sprite without pixels; answers whether a pixel
was erased. -/
def drawSprite (s : Screen width height) (hw : 0 < width) (hh : 0 < height) (x y : Nat)
    (rows : List Byte) : Screen width height × Bool :=
  let (s, erased) := s.toggleAll (spritePixels hw hh x y rows)
  (s.markDirty, erased)

end Chip8.Screen
