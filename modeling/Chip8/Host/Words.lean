import Chip8.Host.Argument
import Chip8.Instr.Disassembly

/-!
# Words, glyphs and random bytes with their arguments

The lists that a host asks for: words to decode, given one by one or at regular distances, bytes to
replay, and the glyph of a digit. A glyph stands at a place even if its digit has a fraction; there
is no row to be read there.
-/

namespace Chip8.Host

/-! ### Words -/

/-- The words that a list holds. -/
def words (list : Json) : Except Error (List Int) := do (← items list).mapM integer

/-- The `count` words from `start` on at the distance `stride`. Without a word neither start nor
distance is looked at. -/
def wordsFrom (start count stride : Json) : Except Error (List Int) := do
  let count ← integer count
  if count ≤ 0 then return []
  let start ← integer start
  let stride ← integer stride
  return (List.range count.toNat).map fun (i : Nat) ↦ start + i * stride

/-- The opcode that an argument names; `null` is none. -/
def opcode : Json → Except Error (Option Opcode)
  | .null => .ok none
  | .string units =>
    match Opcode.ofName? (CodeUnit.toString units) with
    | some op => .ok (some op)
    | none => .error (.argument .badValue)
  | _ => .error (.argument .badValue)

/-! ### Glyphs -/

/-- Where the glyph of a digit stands. -/
def glyphPlace (digit : Json) : Except Error Number := do
  (Font.place (← number digit)).mapError .glyph

/-- The rows of the glyph of a digit. -/
def glyphRows (digit : Json) : Except Error (List Byte) := do
  let _ ← glyphPlace digit
  (Font.rows (← integer digit)).mapError .glyph

/-- The pixels of the glyph of a digit. -/
def glyphBitmap (digit : Json) : Except Error (List (List Bool)) := do
  return (← glyphRows digit).map Font.rowPixels

/-! ### Random bytes -/

/-- The bytes congruent to some values, to be replayed. -/
def cycle (values : Json) : Except Error Cycle := do
  (Cycle.ofValues (← (← items values).mapM whole)).mapError .cycle

/-- A number of times; below zero means never. -/
def count (j : Json) : Except Error Nat := return (← integer j).toNat

/-! ### Integers as arguments -/

@[simp] theorem glyphPlace_int (digit : Int) :
    glyphPlace (.int digit) =
      ((Font.address digit).map fun a ↦ .int (a : Nat)).mapError .glyph := by
  rw [← Font.place_int]
  rfl

end Chip8.Host
