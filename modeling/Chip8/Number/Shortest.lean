import Chip8.Number.Binary64
import Chip8.Text.Hex

/-!
# The shortest decimal of a binary64 number

A finite number is the nearest one to a whole interval of reals. Its shortest decimal is the one
with the fewest significant digits inside that interval; among those with equally many digits it is
the nearest to the number. For each count of digits only the two neighbours of the number on the
decimal grid have to be tried: if any point of the grid lies in the interval, one of them does.

`DecimalStyle` holds the decisions on how the digits are laid out, and `Binary64.text` is the style
of messages and of settings files.
-/

namespace Chip8.Binary64

/-- Significant digits and the place of the point: `0.d₁d₂… * 10 ^ point`. -/
structure DecimalForm where
  /-- The digits as one number. -/
  significand : Nat
  /-- The power of ten of the first digit, plus one. -/
  point : Int
  deriving DecidableEq, Repr

/-- Four times the interval of reals that round to `m * 2 ^ e`, around four times the number itself:
the lower end, the number and the upper end as numerators over one denominator. -/
def roundingInterval (m : Nat) (e : Int) : Nat × Nat × Nat × Nat :=
  let (unit, den) := magnitude 1 e
  let below := if m = implicitBit ∧ minExponent < e then 1 else 2
  ((4 * m - below) * unit, 4 * m * unit, (4 * m + 2) * unit, 4 * den)

/-- The least `p` with `num / den < 10 ^ p`, searched upward from `p`. -/
def pointFrom (num den : Nat) : Nat → Int → Int
  | 0, p => p
  | fuel + 1, p =>
    let below := if 0 ≤ p then num < den * Nat.pow 10 p.toNat else num * Nat.pow 10 (-p).toNat < den
    if below then p else pointFrom num den fuel (p + 1)

/-- The least `p` with `num / den < 10 ^ p`, for magnitudes in the range of the format. -/
def pointOf (num den : Nat) : Int :=
  let guess : Int := (((num.log2 : Int) - den.log2) * 30103) / 100000 - 1
  pointFrom num den 4 guess

/-- The best decimal of `count` digits for the interval, if the grid of that many digits meets
it. -/
def candidate? (lower value upper den : Nat) (inclusive : Bool) (point : Int) (count : Nat) :
    Option Nat :=
  let shift : Int := count - point
  let (up, down) : Nat × Nat :=
    if 0 ≤ shift then (Nat.pow 10 shift.toNat, 1) else (1, Nat.pow 10 (-shift).toNat)
  let step := den * down
  let inside (d : Nat) : Bool :=
    if inclusive then decide (lower * up ≤ d * step ∧ d * step ≤ upper * up)
    else decide (lower * up < d * step ∧ d * step < upper * up)
  let d := value * up / step
  let r := value * up % step
  let nearUp := decide (2 * r > step) || (2 * r == step && d % 2 == 1)
  match inside d, inside (d + 1) with
  | true, true => some (if nearUp then d + 1 else d)
  | true, false => some d
  | false, true => some (d + 1)
  | false, false => none

/-- The shortest decimal of the positive number `m * 2 ^ e`. Seventeen digits always suffice, and
the shortest has no trailing zero, since without it the same number lies on a coarser grid. -/
def shortest (m : Nat) (e : Int) : DecimalForm :=
  let (lower, value, upper, den) := roundingInterval m e
  let point := pointOf value den
  let found := (List.range 17).findSome? fun i ↦
    (candidate? lower value upper den (m % 2 == 0) point (i + 1)).map (·, i + 1)
  let (d, count) := found.getD (0, 1)
  -- rounding up to the next power of ten leaves one digit and moves the point
  if d = Nat.pow 10 count then ⟨1, point + 1⟩ else ⟨d, point⟩

/-- How a decimal is laid out. -/
structure DecimalStyle where
  /-- The least place of the point that is written without an exponent. -/
  minPoint : Int
  /-- The greatest place of the point that is written without an exponent. -/
  maxPoint : Int
  /-- The least number of digits of an exponent. -/
  exponentDigits : Nat
  /-- The text of positive infinity. -/
  infinity : String
  /-- The text of a value that is no number. -/
  notANumber : String

/-- The digits of a form with the point in place, at least one digit on either side of it. -/
def DecimalForm.positional (f : DecimalForm) : List Char :=
  let ds := Text.digits 10 f.significand
  if f.point ≤ 0 then '0' :: '.' :: (List.replicate (-f.point).toNat '0' ++ ds)
  else
    let whole := f.point.toNat
    if ds.length ≤ whole then ds ++ List.replicate (whole - ds.length) '0' ++ ['.', '0']
    else ds.take whole ++ '.' :: ds.drop whole

/-- The digits of a form with an exponent: a point only if there is a second digit. -/
def DecimalForm.scientific (style : DecimalStyle) (f : DecimalForm) : List Char :=
  let ds := Text.digits 10 f.significand
  let e := f.point - 1
  let mantissa := match ds with
    | d :: rest => if rest.isEmpty then [d] else d :: '.' :: rest
    | [] => []
  mantissa ++ 'e' :: (if e < 0 then '-' else '+') ::
    Text.padLeft style.exponentDigits '0' (Text.digits 10 e.natAbs)

/-- The text of a number in a style. -/
def textIn (style : DecimalStyle) : Binary64 → String
  | nan => style.notANumber
  | infinite negative => (if negative then "-" else "") ++ style.infinity
  | finite negative m e =>
    let f : DecimalForm := if m = 0 then ⟨0, 1⟩ else shortest m e
    let body := if style.minPoint ≤ f.point ∧ f.point ≤ style.maxPoint then f.positional
      else f.scientific style
    String.ofList (if negative then '-' :: body else body)

/-- The style of messages: no exponent from `10 ^ -4` up to below `10 ^ 16`, and two digits in an
exponent. -/
def messageStyle : DecimalStyle := ⟨-3, 16, 2, "inf", "nan"⟩

/-- The style of settings files: as in messages, with the names that the file format has. -/
def fileStyle : DecimalStyle := { messageStyle with infinity := "Infinity", notANumber := "NaN" }

end Chip8.Binary64
