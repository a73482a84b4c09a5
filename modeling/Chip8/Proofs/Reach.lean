import Chip8.Proofs.Edit
import Chip8.Proofs.Frame
import Chip8.Proofs.Quotient
import Chip8.Proofs.Step
import Chip8.Proofs.Ticks

/-!
# Machines that a host can come to

`Machine.Reachable` are the machines that a host can come to: one is switched on with any setup, and
then given any commands, of which some may be refused, while observers come and go.

What is carried through such a session is `Timers.InRange`. The two counters are plain integers:
they wrap round when they are set, stop at zero when they lose ticks, and would grow if they ever
lost a negative number of them. Behind it is that no duration has a negative number of ticks
(`Number.floorDiv_nonneg`), and that needs the period to be positive.
-/

namespace Chip8

/-! ### Timers in range -/

/-- Timers with a positive period and with counters that fit a byte. -/
structure Timers.InRange (t : Timers) : Prop where
  period_pos : 0 < t.period
  count : ∀ c, 0 ≤ t.count c ∧ t.count c ≤ 0xFF

namespace Timers

variable {t u : Timers} {ticks : Int}

/-- With a positive period a duration that is accepted has no negative number of ticks. -/
theorem ticks_nonneg_of_advance {elapsed : Number} (period_pos : 0 < t.period)
    (h : t.advance elapsed = .ok (ticks, u)) : 0 ≤ ticks := by
  rw [advance] at h
  split at h
  · cases h
  · next forward =>
    split at h
    · cases h
    · next counted =>
      cases h
      exact Number.floorDiv_nonneg period_pos (by simpa using forward) counted

namespace InRange

theorem reset (period_pos : 0 < t.period) (now : Int) : (t.reset now).InRange where
  period_pos := period_pos
  count c := by
    have zero : (t.reset now).count c = 0 := by
      cases c with
      | delay => rfl
      | sound => rfl
    omega

/-- A counter that is set wraps round. -/
theorem set (h : t.InRange) (c : Counter) (value : Int) : (t.set c value).InRange where
  period_pos := by
    rw [period_set]
    exact h.period_pos
  count d := by
    rw [count_set]
    split
    · omega
    · exact h.count d

/-- A counter that loses ticks stops at zero. -/
theorem take (h : t.InRange) (nonneg : 0 ≤ ticks) : (t.take ticks).InRange where
  period_pos := by
    rw [period_take]
    exact h.period_pos
  count c := by
    have before := h.count c
    rw [count_take before.1]
    omega

theorem passTo (h : t.InRange) (nonneg : 0 ≤ ticks) : (t.passTo ticks).InRange where
  period_pos := by
    rw [period_passTo]
    exact h.period_pos
  count c := by
    rw [count_passTo]
    exact (h.take nonneg).count c

theorem advance (h : t.InRange) {elapsed : Number} (passed : t.advance elapsed = .ok (ticks, u)) :
    u.InRange := by
  rw [eq_take_of_advance passed]
  exact h.take (ticks_nonneg_of_advance h.period_pos passed)

theorem sample (h : t.InRange) {now : Int} (sampled : t.sample now = .ok (ticks, u)) :
    u.InRange := by
  have nonneg : 0 ≤ t.due now := by
    rw [due_eq h.period_pos]
    exact Int.ediv_nonneg (le_max_left _ _) h.period_pos.le
  rw [sample_eq h.period_pos.ne'] at sampled
  cases sampled
  exact h.passTo nonneg

end InRange

end Timers

/-- Whatever is executed sets counters at most. -/
theorem State.Goes.inRange {s t : State} (h : s.Goes t) (timers : s.timers.InRange) :
    t.timers.InRange := by
  cases h with
  | stays => exact timers
  | resumes mode register down => exact timers
  | @executes i e exec =>
    rw [State.timers_tally, State.timers_of_exec exec]
    cases i with
    | setDelay x => exact timers.set .delay _
    | setSound x => exact timers.set .sound _
    | _ => exact timers

namespace Machine

variable {m : Machine} {c : Command}

theorem inRange_edit {f : State → Except Fault State} (edit : c.edit? = some f)
    (h : m.state.timers.InRange) : (m.perform c).machine.state.timers.InRange := by
  rcases frame_perform_of_edit edit m with same | frame
  · rw [same]
    exact h
  · rw [frame.timers]
    cases c with
    | setDelay value => exact h.set .delay value
    | setSound value => exact h.set .sound value
    | _ => exact h

theorem inRange_advanceTimers (h : m.state.timers.InRange) (elapsed : Number) :
    (m.advanceTimers elapsed).machine.state.timers.InRange := by
  rw [advanceTimers]
  split
  · exact h
  · next passed =>
    rw [state_tick]
    exact h.advance passed

theorem inRange_step (h : m.state.timers.InRange) (now : Int) :
    (m.step now).machine.state.timers.InRange := by
  have next := m.goes_executeNext.inRange h
  cases answer : m.executeNext.answer with
  | error f =>
    rw [step_of_error answer, state_attempt]
    exact next
  | ok last =>
    -- The ticks are taken from the counters that the instruction left, which may have set one.
    have sampled := Timers.sample_eq next.period_pos.ne' now
    rw [step_of_ok answer sampled, state_tick]
    exact next.sample sampled

theorem inRange_loadValues (h : m.state.timers.InRange) (values : List Int) :
    (m.loadValues values).machine.state.timers.InRange := by
  obtain ⟨memory, loaded⟩ := m.exists_memory_loadValues values
  rw [loaded]
  exact h

/-- **A command keeps the timers in range**, whether it is refused or not. -/
theorem inRange_perform (h : m.state.timers.InRange) (c : Command) :
    (m.perform c).machine.state.timers.InRange := by
  cases edit : c.edit? with
  | some f => exact inRange_edit edit h
  | none =>
    cases c with
    | reset now => exact .reset h.period_pos now
    | load values => exact inRange_loadValues h values
    | loadProgram values now =>
      have cleared : (m.reset now).machine.state.timers.InRange := .reset h.period_pos now
      exact inRange_loadValues cleared values
    | step now => exact inRange_step h now
    | executeNext => exact m.goes_executeNext.inRange h
    | execute word => exact (m.goes_execute (Word.ofInt word)).inRange h
    | advanceTimers elapsed => exact inRange_advanceTimers h elapsed
    | _ => cases edit

/-! ### The machines that a host can come to -/

/-- The machines that a host can come to. -/
inductive Reachable : Machine → Prop
  /-- A machine that was just switched on. -/
  | powerOn (setup : Setup) (random : RandomSource) (now : Int) :
      Reachable (Machine.powerOn setup random now).machine
  /-- A machine after a command, also after one that it refused. -/
  | perform {m : Machine} (h : Reachable m) (c : Command) : Reachable (m.perform c).machine
  /-- A machine with other observers. -/
  | observe {m : Machine} (h : Reachable m) (tracer : Tracer Event) : Reachable { m with tracer }

namespace Reachable

theorem after (h : m.Reachable) (cs : List Command) : (m.after cs).Reachable := by
  induction cs generalizing m with
  | nil => exact h
  | cons c cs ih => exact ih (h.perform c)

/-- **The timers of a reachable machine are in range.** -/
theorem inRange (h : m.Reachable) : m.state.timers.InRange := by
  induction h with
  | powerOn setup random now => exact .reset setup.period_pos now
  | perform h c ih => exact inRange_perform ih c
  | observe h tracer ih => exact ih

end Reachable

theorem reachable_standard (origin : Int) : (standard origin).Reachable := .powerOn _ _ _

end Machine

end Chip8
