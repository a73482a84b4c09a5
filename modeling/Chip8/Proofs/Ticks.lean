import Chip8.Machine.Timers
import Mathlib.Algebra.Order.Ring.Int

/-!
# Ticks

What becomes of timers that take some ticks, part by part, and how many ticks there are to take.
Both ways of asking for ticks are answered unless the period was set to zero: `Timers.advance_int`
for a duration in milliseconds and `Timers.sample_eq` for a clock reading. With a positive period
the numbers are quotients of integers, rounded down.
-/

namespace Chip8

namespace Timers

variable {t : Timers}

/-! ### Writing a counter -/

/-- A counter set to `value` modulo 256. -/
def set (t : Timers) (c : Counter) (value : Int) : Timers :=
  match c with
  | .delay => t.setDelay value
  | .sound => t.setSound value

theorem count_set (t : Timers) (c d : Counter) (value : Int) :
    (t.set c value).count d = if c = d then value % 256 else t.count d := by
  cases c with
  | delay => cases d with | delay => rfl | sound => rfl
  | sound => cases d with | delay => rfl | sound => rfl

@[simp] theorem period_set (t : Timers) (c : Counter) (value : Int) :
    (t.set c value).period = t.period := by
  cases c with
  | delay => rfl
  | sound => rfl

@[simp] theorem baseline_set (t : Timers) (c : Counter) (value : Int) :
    (t.set c value).baseline = t.baseline := by
  cases c with
  | delay => rfl
  | sound => rfl

/-! ### Taking ticks -/

@[simp] theorem period_take (t : Timers) (ticks : Int) : (t.take ticks).period = t.period := by
  rw [take]
  split
  · rfl
  · rfl

@[simp] theorem baseline_take (t : Timers) (ticks : Int) :
    (t.take ticks).baseline = t.baseline := by
  rw [take]
  split
  · rfl
  · rfl

/-- Ticks take from a counter what there is. -/
theorem count_take {c : Counter} (h : 0 ≤ t.count c) (ticks : Int) :
    (t.take ticks).count c = max 0 (t.count c - ticks) := by
  rw [take]
  split
  · next none =>
    rw [none, Int.sub_zero, max_eq_right h]
  · cases c with
    | delay => rfl
    | sound => rfl

/-- A duration that is accepted becomes ticks. -/
theorem eq_take_of_advance {u : Timers} {elapsed : Number} {ticks : Int}
    (h : t.advance elapsed = .ok (ticks, u)) : u = t.take ticks := by
  rw [advance] at h
  split at h
  · cases h
  · split at h
    · cases h
    · cases h
      rfl

/-- The timers after some ticks up to a clock reading. -/
def passTo (t : Timers) (ticks : Int) : Timers :=
  { t.take ticks with baseline := t.baseline + ticks * t.period }

@[simp] theorem period_passTo (t : Timers) (ticks : Int) : (t.passTo ticks).period = t.period :=
  t.period_take ticks

/-- Moving the baseline touches no counter. -/
theorem count_passTo (t : Timers) (ticks : Int) (c : Counter) :
    (t.passTo ticks).count c = (t.take ticks).count c := by
  cases c with
  | delay => rfl
  | sound => rfl

/-! ### How many ticks there are -/

/-- The whole ticks of a duration in milliseconds. -/
theorem advance_int {elapsed : Int} (period : t.period ≠ 0) (nonneg : 0 ≤ elapsed) :
    t.advance (.int elapsed) =
      .ok (Int.fdiv elapsed t.period, t.take (Int.fdiv elapsed t.period)) := by
  have forward : (Number.int elapsed).isNegative = false := by
    simpa [Number.isNegative] using nonneg
  rw [advance, forward, Number.floorDiv, if_neg period]
  rfl

/-- The whole ticks from the baseline up to a clock reading. -/
def due (t : Timers) (now : Int) : Int := Int.fdiv (max 0 (now - t.baseline)) t.period

/-- A clock reading is always answered with some ticks, unless the period was set to zero. -/
theorem sample_eq (period : t.period ≠ 0) (now : Int) :
    t.sample now = .ok (t.due now, t.passTo (t.due now)) := by
  have moved : t.passTo (t.due now) = { t.take (t.due now) with
      baseline := (t.take (t.due now)).baseline + t.due now * (t.take (t.due now)).period } := by
    simp only [passTo, baseline_take, period_take]
  rw [sample, advance_int period (le_max_left _ _), moved]
  rfl

theorem due_eq (period_pos : 0 < t.period) (now : Int) :
    t.due now = max 0 (now - t.baseline) / t.period :=
  Int.fdiv_eq_ediv_of_nonneg _ period_pos.le

/-- With a positive period a whole duration that is not negative is never refused. -/
theorem advance_of_period_pos (period_pos : 0 < t.period) {elapsed : Int} (nonneg : 0 ≤ elapsed) :
    t.advance (.int elapsed) = .ok (elapsed / t.period, t.take (elapsed / t.period)) := by
  rw [advance_int period_pos.ne' nonneg, Int.fdiv_eq_ediv_of_nonneg _ period_pos.le]

end Timers

end Chip8
