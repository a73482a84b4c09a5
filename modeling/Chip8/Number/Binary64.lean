/-!
# Binary64 numbers

Double-precision numbers as exact data: a finite one is a sign and `mantissa * 2 ^ exponent`. Every
operation here computes with natural numbers and rounds once, to the nearest representable number
and to the even mantissa on a tie (`ofRatio`), so nothing depends on the arithmetic of the host.

Finite values are kept canonical: the mantissa is below `2 ^ 53`, the exponent is at least `-1074`,
and a mantissa below `2 ^ 52` occurs with the least exponent only. Two canonical values are equal as
data exactly when they have the same bits.
-/

namespace Chip8

/-- A double-precision number. -/
inductive Binary64
  | finite (negative : Bool) (mantissa : Nat) (exponent : Int)
  | infinite (negative : Bool)
  | nan
  deriving DecidableEq, Repr, Inhabited

namespace Binary64

/-- The exponent of the smallest positive number. -/
def minExponent : Int := -1074

/-- The exponent of the largest finite numbers. -/
def maxExponent : Int := 971

/-- The leading bit of a mantissa of full length. -/
def implicitBit : Nat := 0x10000000000000

/-- The zero of a given sign. -/
def zero (negative : Bool) : Binary64 := finite negative 0 minExponent

/-- `num / den` rounded to a whole number, to even on a tie. -/
def roundDiv (num den : Nat) : Nat :=
  let q := num / den
  let r := num % den
  if 2 * r > den ∨ (2 * r = den ∧ q % 2 = 1) then q + 1 else q

/-- `num / den * 2 ^ (-e)` as a fraction of natural numbers. -/
def scale (num den : Nat) (e : Int) : Nat × Nat :=
  if 0 ≤ e then (num, den <<< e.toNat) else (num <<< (-e).toNat, den)

/-- The exponent at which `num / den` is measured: the quotient by its power of two is between
`2 ^ 52` and `2 ^ 53`, unless that exponent is less than the least one. -/
def exponentOf (num den : Nat) : Int :=
  let guess : Int := (num.log2 : Int) - den.log2 - 52
  let (a, b) := scale num den guess
  max minExponent (if a < implicitBit * b then guess - 1 else guess)

/-- The number nearest to `num / den` with the given sign, to even on a tie. -/
def ofRatio (negative : Bool) (num den : Nat) : Binary64 :=
  if num = 0 then zero negative
  else
    let e := exponentOf num den
    let (a, b) := scale num den e
    let m := roundDiv a b
    let (m, e) := if m = 2 * implicitBit then (implicitBit, e + 1) else (m, e)
    if maxExponent < e then infinite negative else finite negative m e

/-- The number nearest to an integer. -/
def ofInt (n : Int) : Binary64 := ofRatio (n < 0) n.natAbs 1

/-- The number nearest to `mantissa * 10 ^ exponent`. Magnitudes beyond the range of the format are
settled by their number of digits, without computing the power. -/
def ofDecimal (negative : Bool) (mantissa : Nat) (exponent : Int) : Binary64 :=
  let magnitude : Int := exponent + (Nat.toDigits 10 mantissa).length
  if mantissa = 0 ∨ magnitude < -330 then zero negative
  else if 330 < magnitude then infinite negative
  else if 0 ≤ exponent then ofRatio negative (mantissa * Nat.pow 10 exponent.toNat) 1
  else ofRatio negative mantissa (Nat.pow 10 (-exponent).toNat)

/-- The magnitude of `mantissa * 2 ^ exponent` as a fraction of natural numbers. -/
def magnitude (mantissa : Nat) (exponent : Int) : Nat × Nat :=
  if 0 ≤ exponent then (mantissa <<< exponent.toNat, 1) else (mantissa, 1 <<< (-exponent).toNat)

/-- The whole part: the fraction is dropped, so the result is never farther from zero. Infinities
and NaN have none. -/
def truncate? : Binary64 → Option Int
  | finite negative m e =>
    let (a, b) := magnitude m e
    some (if negative then -((a / b : Nat) : Int) else (a / b : Nat))
  | _ => none

/-- Whether the number is below zero; negative zero is not. -/
def isNegative : Binary64 → Bool
  | finite negative m _ => negative && m != 0
  | infinite negative => negative
  | nan => false

/-- Whether the number is at most zero. -/
def isNonPositive : Binary64 → Bool
  | finite negative m _ => negative || m == 0
  | infinite negative => negative
  | nan => false

/-- Whether the number equals an integer exactly. -/
def equalsInt (n : Int) : Binary64 → Bool
  | finite negative m e =>
    let (a, b) := magnitude m e
    let signed : Int := if negative then -(a : Int) else a
    signed == n * b
  | _ => false

/-- A finite number as a signed fraction. -/
def fraction? : Binary64 → Option (Int × Nat)
  | finite negative m e =>
    let (a, b) := magnitude m e
    some (if negative then -(a : Int) else a, b)
  | _ => none

/-- Whether the number is below an integer; NaN is not. -/
def isBelow (bound : Int) : Binary64 → Bool
  | infinite negative => negative
  | d => d.fraction?.any fun (a, b) ↦ a < bound * b

/-- Whether the number is an integer or above it; NaN is not. -/
def reaches (bound : Int) : Binary64 → Bool
  | infinite negative => !negative
  | d => d.fraction?.any fun (a, b) ↦ bound * b ≤ a

/-- Equality of values: the two zeros are equal, and NaN equals itself, since a value that was
written and read again is the same value. -/
def equals : Binary64 → Binary64 → Bool
  | finite n₁ m₁ e₁, finite n₂ m₂ e₂ => (m₁ == 0 && m₂ == 0) || (n₁ == n₂ && m₁ == m₂ && e₁ == e₂)
  | infinite n₁, infinite n₂ => n₁ == n₂
  | nan, nan => true
  | _, _ => false

/-- Whether the number is zero, of either sign. -/
def isZero : Binary64 → Bool
  | finite _ m _ => m == 0
  | _ => false

/-- The number with the other sign. -/
def neg : Binary64 → Binary64
  | finite negative m e => finite (!negative) m e
  | infinite negative => infinite (!negative)
  | nan => nan

/-- The product of two numbers rounded to the nearest number. -/
def mul (x y : Binary64) : Binary64 :=
  match x, y with
  | finite n₁ m₁ e₁, finite n₂ m₂ e₂ =>
    let (a, b) := magnitude m₁ e₁
    let (c, d) := magnitude m₂ e₂
    ofRatio (n₁ != n₂) (a * c) (b * d)
  | infinite n₁, infinite n₂ => infinite (n₁ != n₂)
  | infinite n₁, finite n₂ m _ => if m = 0 then nan else infinite (n₁ != n₂)
  | finite n₁ m _, infinite n₂ => if m = 0 then nan else infinite (n₁ != n₂)
  | _, _ => nan

/-- The sum of two numbers rounded to the nearest number. -/
def add (x y : Binary64) : Binary64 :=
  match x, y with
  | infinite n₁, infinite n₂ => if n₁ = n₂ then infinite n₁ else nan
  | infinite n, finite .. => infinite n
  | finite .., infinite n => infinite n
  | finite n₁ m₁ e₁, finite n₂ m₂ e₂ =>
    let (a, b) := magnitude m₁ e₁
    let (c, d) := magnitude m₂ e₂
    let sum : Int := (if n₁ then -(a : Int) else a) * d + (if n₂ then -(c : Int) else c) * b
    if sum = 0 then zero (n₁ && n₂) else ofRatio (decide (sum < 0)) sum.natAbs (b * d)
  | _, _ => nan

/-- The quotient of two finite numbers rounded to the nearest number; the divisor is not zero. -/
def div (x d : Binary64) : Binary64 :=
  match x, d with
  | finite n₁ m₁ e₁, finite n₂ m₂ e₂ =>
    let (a, b) := magnitude m₁ e₁
    let (c, d) := magnitude m₂ e₂
    ofRatio (n₁ != n₂) (a * d) (b * c)
  | _, _ => nan

/-- The whole number nearest to a quotient that is already nearly whole: the floor, or one more if
the rest is above one half. -/
def nearestWhole (q : Binary64) : Binary64 :=
  match q.fraction? with
  | some (a, b) =>
    let floor := Int.fdiv a b
    ofInt (if b < 2 * (a - floor * b) then floor + 1 else floor)
  | none => q

/-- How often `d`, which is not zero, goes into `x`, which is not negative, rounded toward negative
infinity, in double precision: the remainder of `x` is exact, what is left is divided by `d` with
one rounding for each operation, and the quotient goes to the nearest whole number. An infinite `x`
and NaN have no quotient. -/
def floorDiv (x d : Binary64) : Binary64 :=
  match x, d with
  | finite _ m₁ e₁, finite negative m₂ e₂ =>
    let (xn, xd) := magnitude m₁ e₁
    let (dn, dd) := magnitude m₂ e₂
    let count := xn * dd / (dn * xd)
    -- the part of `x` that divides evenly
    let quotient := (ofRatio false (count * dn) dd).div d
    let exact := xn * dd == count * dn * xd
    nearestWhole (if negative && !exact then quotient.add (ofInt (-1)) else quotient)
  | finite _ m _, infinite negative => if negative && m != 0 then ofInt (-1) else zero false
  | _, _ => nan

end Binary64

end Chip8
