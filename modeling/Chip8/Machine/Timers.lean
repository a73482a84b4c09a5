import Chip8.Number.Basic

/-!
# Timers

The delay and the sound counter, which lose one per period of elapsed time and stop at zero.
`Timers.advance` takes a duration; `Timers.sample` takes the reading of a clock and moves the
baseline by whole periods only, so the part of a period that is left over counts the next time.

A duration may be a double, a clock reading is a whole number of milliseconds. A clock that goes
back counts as standing still.
-/

namespace Chip8

/-- The two counters, their period and the clock reading up to which they have decayed. -/
structure Timers where
  /-- Milliseconds per tick. -/
  period : Int
  delay : Int
  sound : Int
  /-- The clock reading up to which ticks were taken. -/
  baseline : Int
  deriving DecidableEq, Repr

namespace Timers

/-- The period of a tick of a sixtieth of a second, rounded up. -/
def standardPeriod : Int := 17

theorem standardPeriod_pos : 0 < standardPeriod := by decide

/-- Why an operation on timers was refused. -/
inductive Error
  /-- Timers cannot be made with this period. -/
  | periodNotPositive (period : Int)
  /-- Time cannot be taken back. -/
  | elapsedNegative (elapsed : Number)
  /-- A duration or a clock reading has no whole number of periods or milliseconds; it has none if
  the period was set to zero. -/
  | number (e : Number.Error)
  deriving DecidableEq, Repr

/-- The text of a refusal. -/
def Error.message : Error → String
  | periodNotPositive period => "Timer period must be positive, got " ++ Text.decimal period
  | elapsedNegative elapsed => "Elapsed time must not be negative, got " ++ elapsed.text
  | number .tooLarge => "time is too large"
  | number .notANumber => "time is not a number"
  | number .byZero => "timer period is zero"

/-- Timers with given counters, at the baseline zero. -/
def make (period delay sound : Int) : Except Error Timers :=
  if period ≤ 0 then .error (.periodNotPositive period) else .ok ⟨period, delay, sound, 0⟩

/-- Both counters at zero. -/
def clear (t : Timers) : Timers := { t with delay := 0, sound := 0 }

/-- Both counters at zero and the baseline at `now`. -/
def reset (t : Timers) (now : Int) : Timers := { t.clear with baseline := now }

/-- Both counters after some ticks. -/
def decay (t : Timers) (ticks : Int) : Timers :=
  { t with delay := max 0 (t.delay - ticks), sound := max 0 (t.sound - ticks) }

/-- Takes some ticks. With no tick the counters are left as they are. -/
def take (t : Timers) (ticks : Int) : Timers := if ticks = 0 then t else t.decay ticks

/-- Takes the whole ticks of a duration and answers how many there were. -/
def advance (t : Timers) (elapsed : Number) : Except Error (Int × Timers) :=
  if elapsed.isNegative then .error (.elapsedNegative elapsed)
  else match elapsed.floorDiv (.int t.period) with
    | .error e => .error (.number e)
    | .ok ticks => .ok (ticks, t.take ticks)

/-- Takes the whole ticks up to the clock reading `now` and moves the baseline by them. -/
def sample (t : Timers) (now : Int) : Except Error (Int × Timers) := do
  let (ticks, t) ← t.advance (.int (max 0 (now - t.baseline)))
  return (ticks, { t with baseline := t.baseline + ticks * t.period })

/-- The two counters by name. -/
inductive Counter
  | delay | sound
  deriving DecidableEq, Repr

/-- The name of a counter. -/
def Counter.name : Counter → String
  | delay => "DELAY"
  | sound => "SOUND"

/-- The value of a counter. -/
def count (t : Timers) : Counter → Int
  | .delay => t.delay
  | .sound => t.sound

/-- The counters that stand at zero. -/
def expired (t : Timers) : List Counter := [.delay, .sound].filter fun c ↦ t.count c = 0

/-- The delay counter set to `value` modulo 256. -/
def setDelay (t : Timers) (value : Int) : Timers := { t with delay := value % 256 }

/-- The sound counter set to `value` modulo 256. -/
def setSound (t : Timers) (value : Int) : Timers := { t with sound := value % 256 }

end Timers

end Chip8
