import Chip8.Text.Digits
import Chip8.Text.DecimalDigit
import Chip8.Text.Limits

/-!
# Reading whole numbers

The text of a whole number in a base: blanks around it, a sign, and digits with single underscores
between them. In base sixteen the digits may follow `0x` or `0X`, and one underscore may stand
between that mark and the first digit. Decimal digits of any script count as the ASCII digits, and
every blank as a space. The number of digits may be limited; sign, blanks and underscores do not
count.
-/

namespace Chip8.Text

/-- The values of digits below `base`, with single underscores between them; `started` tells whether
a digit came directly before, so that an underscore or the end of the text may follow. -/
def digitValues? (base : Nat) : Bool → List Char → Option (List Nat)
  | started, [] => if started then some [] else none
  | started, c :: cs =>
    if c = '_' then
      if started then digitValues? base false cs else none
    else
      match digitValue? c with
      | some d => if d < base then (digitValues? base true cs).map (d :: ·) else none
      | none => none

/-- Text without the blanks at both ends. -/
def strip (cs : List Char) : List Char :=
  ((cs.dropWhile isBlank).reverse.dropWhile isBlank).reverse

/-- The digits after the mark of base sixteen, if there is one, and after the underscore that may
follow it. -/
def dropHexMark : List Char → List Char
  | '0' :: 'x' :: '_' :: cs => cs
  | '0' :: 'X' :: '_' :: cs => cs
  | '0' :: 'x' :: cs => cs
  | '0' :: 'X' :: cs => cs
  | cs => cs

/-- The number of a text without sign and blanks, if it has no more digits than the limit. -/
def magnitude? (limit : Option Nat) (base : Nat) (cs : List Char) : Option Nat :=
  let body := if base = 16 then dropHexMark cs else cs
  ((digitValues? base false body).filter fun ds ↦ Limits.allows limit ds.length).map (valueOf base)

/-- The whole number that a text denotes in `base`, if it has no more digits than the limit. -/
def integer? (limit : Option Nat) (base : Nat) (cs : List Char) : Option Int :=
  match strip (cs.map plain) with
  | '-' :: rest => (magnitude? limit base rest).map fun n ↦ -(n : Int)
  | '+' :: rest => (magnitude? limit base rest).map Int.ofNat
  | rest => (magnitude? limit base rest).map Int.ofNat

end Chip8.Text
