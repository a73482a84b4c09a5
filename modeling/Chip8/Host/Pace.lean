import Chip8.Host.Store

/-!
# The pace of timers

How time becomes ticks when the period is any value that a host has set. A period that is no number
gives no ticks, and one with a fraction makes the baseline a number with a fraction, because the
baseline moves by whole periods. For integers this is how the timers of a machine count
(`ticksUpTo_ofTimers`, `move_ofTimers`).
-/

namespace Chip8.Host

/-- What time is counted by: the period, and the clock reading up to which ticks were taken. -/
structure Pace where
  period : Json
  baseline : Number

namespace Pace

/-- The pace of the timers of a machine. -/
def ofTimers (t : Timers) : Pace := ⟨.int t.period, .int t.baseline⟩

/-- The ticks of a duration. -/
def ticks (p : Pace) (elapsed : Number) : Except Error Int := do
  if elapsed.isNegative then throw (.timer (.elapsedNegative elapsed))
  let period ← number p.period
  (elapsed.floorDiv period).mapError (.timer ∘ .number)

/-- The time from the baseline to a clock reading. A clock that goes back counts as standing
still. -/
def elapsed (p : Pace) (now : Int) : Except Error Number := do
  let e ← sum (.int now) p.baseline.neg
  return if e.exceeds 0 then e else .int 0

/-- The pace after some ticks: the baseline is moved by as many periods. -/
def move (p : Pace) (ticks : Int) : Except Error Pace := do
  let moved ← ((Number.int ticks).mul (← number p.period)).mapError (.timer ∘ .number)
  return { p with baseline := ← sum p.baseline moved }

/-- The ticks up to a clock reading. -/
def ticksUpTo (p : Pace) (now : Int) : Except Error Int := do p.ticks (← p.elapsed now)

/-! ### Integers -/

theorem ticks_ofTimers (t : Timers) (elapsed : Number) :
    (ofTimers t).ticks elapsed = ((t.advance elapsed).map Prod.fst).mapError .timer := by
  unfold ticks Timers.advance
  by_cases negative : elapsed.isNegative = true
  · rw [if_pos negative, if_pos negative]
    rfl
  · rw [if_neg negative, if_neg negative]
    have isNumber : number (ofTimers t).period = .ok (.int t.period) := number_int t.period
    rw [isNumber]
    cases h : elapsed.floorDiv (.int t.period) with
    | error e =>
      simp only [bind, Except.bind, h]
      rfl
    | ok ticks =>
      simp only [bind, Except.bind, h]
      rfl

theorem elapsed_ofTimers (t : Timers) (now : Int) :
    (ofTimers t).elapsed now = .ok (.int (max 0 (now - t.baseline))) := by
  have total : sum (.int now) (ofTimers t).baseline.neg = .ok (.int (now - t.baseline)) := rfl
  unfold elapsed
  rw [total]
  simp only [bind, Except.bind, pure, Except.pure, Number.exceeds_int, decide_eq_true_eq]
  split
  · next h => rw [Int.max_eq_right (Int.le_of_lt h)]
  · next h => rw [Int.max_eq_left (Int.not_lt.1 h)]

/-- The pace of timers counts ticks as the timers do. -/
theorem ticksUpTo_ofTimers (t : Timers) (now : Int) :
    (ofTimers t).ticksUpTo now = ((t.sample now).map Prod.fst).mapError .timer := by
  unfold ticksUpTo Timers.sample
  rw [elapsed_ofTimers]
  simp only [bind, Except.bind, ticks_ofTimers]
  cases t.advance (.int (max 0 (now - t.baseline))) with
  | error e => rfl
  | ok r => rfl

/-- The pace of timers moves the baseline as the timers do. -/
theorem move_ofTimers (t : Timers) (ticks : Int) :
    (ofTimers t).move ticks = .ok (ofTimers { t with baseline := t.baseline + ticks * t.period }) :=
  rfl

end Pace

end Chip8.Host
