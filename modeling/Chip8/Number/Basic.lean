import Chip8.Number.Shortest

/-!
# Numbers

A number is an unbounded integer or a binary64 number; the two kinds stay apart, because they are
divided and written differently. Comparison and equality are by value, across the two kinds.
-/

namespace Chip8

/-- An integer of any size or a double-precision number. -/
inductive Number
  | int (n : Int)
  | double (d : Binary64)
  deriving DecidableEq, Repr, Inhabited

namespace Number

/-- Whether the number is below zero. -/
def isNegative : Number → Bool
  | int n => n < 0
  | double d => d.isNegative

/-- Whether the number is at most zero. -/
def isNonPositive : Number → Bool
  | int n => n ≤ 0
  | double d => d.isNonPositive

/-- Whether the number is zero, of either sign. -/
def isZero : Number → Bool
  | int n => n == 0
  | double d => d.equalsInt 0

/-- Equality by value, for NaN too. -/
def equals : Number → Number → Bool
  | int a, int b => a == b
  | int a, double d => d.equalsInt a
  | double d, int b => d.equalsInt b
  | double c, double d => c.equals d

/-- Whether the number is below an integer. -/
def isBelow (bound : Int) : Number → Bool
  | int n => n < bound
  | double d => d.isBelow bound

/-- Whether the number is an integer or above it. -/
def reaches (bound : Int) : Number → Bool
  | int n => bound ≤ n
  | double d => d.reaches bound

/-- Whether the number is above an integer. -/
def exceeds (bound : Int) (n : Number) : Bool := n.reaches bound && !n.equals (int bound)

/-- Whether the number is at least zero and below a size. -/
def isWithin (size : Int) (n : Number) : Bool := n.reaches 0 && n.isBelow size

/-- The number with the other sign. -/
def neg : Number → Number
  | int n => int (-n)
  | double d => double d.neg

/-! ### Operations that may have no result -/

/-- Why an operation on numbers has no result. -/
inductive Error
  /-- A number is infinite, or too large for a double. -/
  | tooLarge
  /-- A number is NaN, or the result would be. -/
  | notANumber
  /-- The divisor is zero. -/
  | byZero
  deriving DecidableEq, Repr

/-- The whole number that is left without the fraction. -/
def whole : Number → Except Error Int
  | int n => .ok n
  | double d =>
    match d.truncate? with
    | some n => .ok n
    | none => .error (if d = .nan then .notANumber else .tooLarge)

/-- The double nearest to a number. An integer has to be in the range of doubles. -/
def toDouble : Number → Except Error Binary64
  | int n =>
    match Binary64.ofInt n with
    | .infinite _ => .error .tooLarge
    | d => .ok d
  | double d => .ok d

/-- An operation on two numbers that is exact for integers, and in double precision if one of the
numbers is a double. -/
def combine (exact : Int → Int → Int) (rounded : Binary64 → Binary64 → Binary64) (a b : Number) :
    Except Error Number :=
  match a, b with
  | int a, int b => .ok (int (exact a b))
  | a, b => do return double (rounded (← a.toDouble) (← b.toDouble))

/-- The sum of two numbers. -/
def add : Number → Number → Except Error Number := combine (· + ·) Binary64.add

/-- The product of two numbers. -/
def mul : Number → Number → Except Error Number := combine (· * ·) Binary64.mul

/-- How often `d` goes into a number that is not negative, rounded toward negative infinity; in
double precision if one of the two is a double. -/
def floorDiv (x d : Number) : Except Error Int :=
  match x, d with
  | int n, int d => if d = 0 then .error .byZero else .ok (Int.fdiv n d)
  | x, d => do
    let x ← x.toDouble
    let d ← d.toDouble
    if d.isZero then throw .byZero
    whole (double (x.floorDiv d))

@[simp] theorem whole_int (n : Int) : whole (int n) = .ok n := rfl

@[simp] theorem exceeds_int (bound n : Int) : exceeds bound (int n) = decide (bound < n) := by
  rw [Bool.eq_iff_iff]
  simp only [exceeds, reaches, equals, Bool.and_eq_true, Bool.not_eq_true', beq_eq_false_iff_ne,
    decide_eq_true_eq]
  omega

@[simp] theorem isWithin_int (size n : Int) :
    isWithin size (int n) = decide (0 ≤ n ∧ n < size) := by
  simp [isWithin, reaches, isBelow]

/-- The text of a number in messages. -/
def text : Number → String
  | int n => Text.decimal n
  | double d => d.textIn Binary64.messageStyle

end Number

end Chip8
