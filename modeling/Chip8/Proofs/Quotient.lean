import Chip8.Number.Basic
import Mathlib.Algebra.Order.Ring.Int

/-!
# Quotients that are not negative

How often a period goes into a duration is asked for integers and for doubles
(`Number.floorDiv`). For integers it is plain that a duration that is not negative has no negative
number of periods. A double is divided in several rounded operations, and the sign bit of its zero
may be set, so there the sign is followed through them: `Binary64.IsUnsigned` holds of every result
on the way, however the rounding goes and whether or not it overflows.

The main result is `Number.floorDiv_nonneg`.
-/

namespace Chip8

namespace Binary64

variable {x d q : Binary64} {n : Int}

/-- The sign bit is not set. NaN has no sign. -/
def IsUnsigned : Binary64 → Prop
  | finite negative _ _ => negative = false
  | infinite negative => negative = false
  | nan => True

theorem isUnsigned_ofRatio (num den : Nat) : (ofRatio false num den).IsUnsigned := by
  rw [ofRatio]
  split
  · rfl
  · dsimp only
    -- the mantissa may overflow, and then the exponent; the sign is given either way
    split
    · split
      · rfl
      · rfl
    · split
      · rfl
      · rfl

theorem isUnsigned_ofInt (h : 0 ≤ n) : (ofInt n).IsUnsigned := by
  have positive : decide (n < 0) = false := by simpa using h
  rw [ofInt, positive]
  exact isUnsigned_ofRatio _ _

theorem isUnsigned_div (hx : x.IsUnsigned) (hd : d.IsUnsigned) : (x.div d).IsUnsigned := by
  cases x with
  | infinite negative => trivial
  | nan => trivial
  | finite negative m e =>
    cases d with
    | infinite negative' => trivial
    | nan => trivial
    | finite negative' m' e' =>
      cases hx
      cases hd
      exact isUnsigned_ofRatio _ _

theorem isUnsigned_nearestWhole (h : q.IsUnsigned) : q.nearestWhole.IsUnsigned := by
  cases q with
  | infinite negative => exact h
  | nan => trivial
  | finite negative m e =>
    cases h
    obtain ⟨a, b, fraction⟩ : ∃ a b : Nat, (finite false m e).fraction? = some ((a : Int), b) :=
      ⟨_, _, rfl⟩
    have floor : 0 ≤ Int.fdiv (a : Int) b :=
      Int.fdiv_nonneg (Int.natCast_nonneg a) (Int.natCast_nonneg b)
    rw [nearestWhole, fraction]
    refine isUnsigned_ofInt ?_
    split
    · omega
    · exact floor

/-- The sign bit of what is divided is not looked at: where it is set, what is divided is zero. -/
theorem isUnsigned_floorDiv (x : Binary64) (h : d.IsUnsigned) : (x.floorDiv d).IsUnsigned := by
  cases x with
  | infinite negative => trivial
  | nan => trivial
  | finite negative m e =>
    cases d with
    | nan => trivial
    | infinite negative' =>
      cases h
      rfl
    | finite negative' m' e' =>
      cases h
      exact isUnsigned_nearestWhole (isUnsigned_div (isUnsigned_ofRatio _ _) rfl)

theorem truncate?_nonneg (h : d.IsUnsigned) (truncated : d.truncate? = some n) : 0 ≤ n := by
  cases d with
  | infinite negative => cases truncated
  | nan => cases truncated
  | finite negative m e =>
    cases h
    cases truncated
    exact Int.natCast_nonneg _

end Binary64

namespace Number

variable {d n : Int}

theorem whole_nonneg {q : Binary64} (h : q.IsUnsigned) (left : whole (double q) = .ok n) :
    0 ≤ n := by
  rw [whole] at left
  split at left
  · next truncated =>
    cases left
    exact Binary64.truncate?_nonneg h truncated
  · cases left

/-- The double nearest to an integer, if there is one. -/
theorem eq_ofInt_of_toDouble {r : Binary64} (h : (int d).toDouble = .ok r) :
    r = Binary64.ofInt d := by
  rw [toDouble] at h
  split at h
  · cases h
  · cases h
    rfl

/-- Dividing a double by an integer: the integer may have no double, and its double may be zero. -/
theorem floorDiv_double_int (x : Binary64) (d : Int) :
    (double x).floorDiv (int d) =
      match (int d).toDouble with
      | .error e => .error e
      | .ok r => if r.isZero then .error .byZero else whole (double (x.floorDiv r)) := by
  show (int d).toDouble >>= _ = _
  cases (int d).toDouble with
  | error e => rfl
  | ok r =>
    cases zero : r.isZero with
    | true =>
      simp only [bind, Except.bind, zero, if_true]
      rfl
    | false => simp only [bind, Except.bind, zero, Bool.false_eq_true, if_false]

/-- **A positive integer goes no negative number of times into what is not negative.** -/
theorem floorDiv_nonneg {x : Number} (positive : 0 < d) (forward : x.isNegative = false)
    (h : x.floorDiv (int d) = .ok n) : 0 ≤ n := by
  cases x with
  | int a =>
    have nonneg : 0 ≤ a := by simpa [isNegative] using forward
    rw [floorDiv, if_neg positive.ne'] at h
    cases h
    exact Int.fdiv_nonneg nonneg positive.le
  | double x =>
    rw [floorDiv_double_int] at h
    split at h
    · cases h
    · next r divisor =>
      have unsigned : r.IsUnsigned :=
        eq_ofInt_of_toDouble divisor ▸ Binary64.isUnsigned_ofInt positive.le
      split at h
      · cases h
      · exact whole_nonneg (Binary64.isUnsigned_floorDiv x unsigned) h

end Number

end Chip8
