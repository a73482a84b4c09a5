import Chip8.Number.Basic
import Chip8.Word

/-!
# The built-in font

One glyph for each hexadecimal digit: five rows of four pixels, each row a byte whose upper half
holds the pixels. The table starts at address zero of every machine, so a glyph stands at five times
its digit.
-/

namespace Chip8.Font

/-- The number of glyphs. -/
def count : Nat := 16

/-- The number of bytes, and of rows, of one glyph. -/
def stride : Nat := 5

/-- The address of the first glyph. -/
def base : Nat := 0

/-- The number of bytes of all glyphs. -/
abbrev size : Nat := 80

/-- The rows of all glyphs, digit by digit. -/
def table : Vector Byte size :=
  #v[0xF0, 0x90, 0x90, 0x90, 0xF0,
    0x20, 0x60, 0x20, 0x20, 0x70,
    0xF0, 0x10, 0xF0, 0x80, 0xF0,
    0xF0, 0x10, 0xF0, 0x10, 0xF0,
    0x90, 0x90, 0xF0, 0x10, 0x10,
    0xF0, 0x80, 0xF0, 0x10, 0xF0,
    0xF0, 0x80, 0xF0, 0x90, 0xF0,
    0xF0, 0x10, 0x20, 0x40, 0x40,
    0xF0, 0x90, 0xF0, 0x90, 0xF0,
    0xF0, 0x90, 0xF0, 0x10, 0xF0,
    0xF0, 0x90, 0xF0, 0x90, 0x90,
    0xE0, 0x90, 0xE0, 0x90, 0xE0,
    0xF0, 0x80, 0x80, 0x80, 0xF0,
    0xE0, 0x90, 0x90, 0x90, 0xE0,
    0xF0, 0x80, 0xF0, 0x80, 0xF0,
    0xF0, 0x80, 0xF0, 0x80, 0x80]

/-- A number that is no hexadecimal digit was asked for its glyph. -/
structure NoGlyph where
  /-- The number. -/
  digit : Number
  deriving DecidableEq, Repr

/-- The text of the refusal. -/
def NoGlyph.message (e : NoGlyph) : String :=
  "Glyph digit out of range: " ++ e.digit.text

/-- The address of the glyph of a digit. -/
def address (digit : Int) : Except NoGlyph Nat :=
  if 0 ≤ digit ∧ digit < count then .ok (base + digit.toNat * stride)
  else .error ⟨.int digit⟩

/-- Where the glyph of a number would stand; a number with a fraction falls between the rows. -/
def place (digit : Number) : Except NoGlyph Number :=
  match digit with
  | .int d => (address d).map fun a ↦ .int (a : Nat)
  | .double d =>
    if digit.isWithin count then
      .ok (.double ((Binary64.ofInt base).add (d.mul (Binary64.ofInt stride))))
    else .error ⟨digit⟩

/-- The five rows of the glyph of a digit. -/
def rows (digit : Int) : Except NoGlyph (List Byte) :=
  (address digit).map fun a ↦ (table.toList.drop (a - base)).take stride

/-- The eight pixels of a sprite row, leftmost first; the leftmost is the most significant bit. -/
def rowPixels (row : Byte) : List Bool :=
  (List.range 8).map fun col ↦ row.getMsbD col

/-- The glyph of a digit as rows of pixels. -/
def bitmap (digit : Int) : Except NoGlyph (List (List Bool)) :=
  (rows digit).map (·.map rowPixels)

/-- The table is as long as its glyphs together. -/
theorem size_eq : size = count * stride := rfl

/-- The glyph of a digit stands at its address. -/
theorem place_int (digit : Int) :
    place (.int digit) = (address digit).map fun a ↦ .int (a : Nat) := rfl

end Chip8.Font
