import Chip8.Host.Pace

/-!
# Timers from a host

Timers whose counters may hold any values when they are made. A counter that is no number cannot
decay; a number with a fraction keeps it. The delay counter decays before the sound counter, so it
has decayed even if the sound counter cannot.
-/

namespace Chip8.Host

/-- Two counters with any values, and their pace. -/
structure Countdown where
  pace : Pace
  delay : Json
  sound : Json

namespace Countdown

/-- The timers of a machine. -/
def ofTimers (t : Timers) : Countdown := ⟨.ofTimers t, .int t.delay, .int t.sound⟩

/-- The timers that some fields describe; there is no other field. -/
def ofFields (fields : List (List CodeUnit × Json)) : Except Error Countdown := do
  let known := ["period_ms", "delay", "sound"].map CodeUnit.ofString
  if fields.any fun (k, _) ↦ !known.contains k then throw .wrongKind
  let field (key : String) (other : Int) : Json :=
    (Json.lookup (CodeUnit.ofString key) fields).getD (.int other)
  let t ← (Timers.make (← whole (field "period_ms" Timers.standardPeriod)) 0 0).mapError .timer
  return ⟨.ofTimers t, field "delay" 0, field "sound" 0⟩

/-- A counter after some ticks; it stops at zero. -/
def decayed (counter : Json) (ticks : Int) : Except Error Json := do
  let n ← sum (← number counter) (.int (-ticks))
  return if n.exceeds 0 then .number n else .int 0

/-- Takes some ticks. -/
def take (c : Countdown) (ticks : Int) : Except Error Int × Countdown :=
  if ticks = 0 then (.ok ticks, c)
  else match decayed c.delay ticks with
    | .error e => (.error e, c)
    | .ok delay => match decayed c.sound ticks with
      | .error e => (.error e, { c with delay })
      | .ok sound => (.ok ticks, { c with delay, sound })

/-- Takes the ticks of a duration and answers how many there were. -/
def advanceBy (c : Countdown) (elapsed : Number) : Except Error Int × Countdown :=
  match c.pace.ticks elapsed with
  | .error e => (.error e, c)
  | .ok ticks => c.take ticks

/-- Takes the ticks of what an argument says. -/
def advance (c : Countdown) (elapsed : Json) : Except Error Int × Countdown :=
  match number elapsed with
  | .error e => (.error e, c)
  | .ok elapsed => c.advanceBy elapsed

/-- Moves the baseline by some ticks. -/
def move (c : Countdown) (ticks : Int) : Except Error Int × Countdown :=
  match c.pace.move ticks with
  | .error e => (.error e, c)
  | .ok pace => (.ok ticks, { c with pace })

/-- Takes the ticks up to a clock reading. The baseline is moved after the counters have decayed. -/
def sample (c : Countdown) (now : Json) : Except Error Int × Countdown :=
  match whole now >>= c.pace.elapsed with
  | .error e => (.error e, c)
  | .ok elapsed =>
    match c.advanceBy elapsed with
    | (.error e, c) => (.error e, c)
    | (.ok ticks, c) => c.move ticks

/-- Both counters at zero and the baseline at a clock reading. The baseline comes last, so the
counters are zero even if the reading is refused. -/
def reset (c : Countdown) (now : Json) : Except Error Unit × Countdown :=
  let c := { c with delay := .int 0, sound := .int 0 }
  match whole now with
  | .error e => (.error e, c)
  | .ok now => (.ok (), { c with pace := { c.pace with baseline := .int now } })

/-- The baseline set to a clock reading. -/
def setBaseline (c : Countdown) (now : Json) : Except Error Countdown := do
  return { c with pace := { c.pace with baseline := .int (← whole now) } }

/-- The delay counter set to a value modulo 256. -/
def setDelay (c : Countdown) (value : Json) : Except Error Countdown := do
  return { c with delay := .int ((← whole value) % 256) }

/-- The sound counter set to a value modulo 256. -/
def setSound (c : Countdown) (value : Json) : Except Error Countdown := do
  return { c with sound := .int ((← whole value) % 256) }

/-- The value of a counter. -/
def count (c : Countdown) : Timers.Counter → Json
  | .delay => c.delay
  | .sound => c.sound

/-- The counters that stand at zero. -/
def expired (c : Countdown) : List Timers.Counter :=
  [.delay, .sound].filter fun k ↦ (c.count k).equals (.int 0)

/-! ### Integers -/

theorem decayed_int (n ticks : Int) : decayed (.int n) ticks = .ok (.int (max 0 (n - ticks))) := by
  unfold decayed
  rw [number_int]
  simp only [bind, Except.bind, sum_int, pure, Except.pure, Number.exceeds_int, decide_eq_true_eq]
  split
  · next h => rw [Int.max_eq_right (by omega)]; rfl
  · next h => rw [Int.max_eq_left (by omega)]

/-- The timers of a machine take ticks as they do without a host. -/
theorem take_ofTimers (t : Timers) (ticks : Int) :
    (ofTimers t).take ticks = (.ok ticks, ofTimers (t.take ticks)) := by
  unfold take Timers.take
  by_cases h : ticks = 0
  · rw [if_pos h, if_pos h]
  · rw [if_neg h, if_neg h]
    simp only [ofTimers, decayed_int]
    rfl

/-- The timers of a machine take the ticks of a duration as they do without a host. -/
theorem advanceBy_ofTimers (t : Timers) (elapsed : Number) :
    (ofTimers t).advanceBy elapsed =
      match t.advance elapsed with
      | .ok (ticks, t) => (.ok ticks, ofTimers t)
      | .error e => (.error (.timer e), ofTimers t) := by
  have counted : (ofTimers t).pace.ticks elapsed = _ := Pace.ticks_ofTimers t elapsed
  unfold advanceBy
  rw [counted]
  by_cases negative : elapsed.isNegative = true
  · simp only [Timers.advance, negative, if_true]
    rfl
  · simp only [Timers.advance, negative]
    cases elapsed.floorDiv (.int t.period) with
    | error e => rfl
    | ok ticks => exact take_ofTimers t ticks

end Countdown

end Chip8.Host
