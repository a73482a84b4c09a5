import Chip8.Text.Digits

/-!
# Numbers in messages

How addresses, words and counts are written in messages, names and disassembly: hexadecimal in upper
case, padded with zeros to a least width, and plain decimal. A minus sign stands in front of the
digits and counts toward the width, so minus one in three places is `-01`.
-/

namespace Chip8.Text

/-- The sign of `n` in front of what `magnitude` writes for its absolute value, with zeros between
the two up to `width` characters. -/
def signed (width : Nat) (n : Int) (magnitude : Nat → List Char) : List Char :=
  if n < 0 then '-' :: padLeft (width - 1) '0' (magnitude n.natAbs)
  else padLeft width '0' (magnitude n.natAbs)

/-- `n` in upper-case hexadecimal, at least `width` characters wide. -/
def hex (width : Nat) (n : Int) : String :=
  String.ofList (signed width n (digits 16))

/-- `n` in decimal. -/
def decimal (n : Int) : String :=
  String.ofList (signed 0 n (digits 10))

end Chip8.Text
