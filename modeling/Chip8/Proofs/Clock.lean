import Chip8.Proofs.Edit
import Chip8.Proofs.Frame
import Chip8.Proofs.Step
import Chip8.Proofs.Ticks

/-!
# The clock refuses nothing

A step looks at the clock after its instruction was completed, and that could be refused: with a
period of zero there is no number of ticks. With any other period there is one
(`Timers.sample_eq`), so a step answers what its instruction answers (`Machine.answer_step`). And no
command of a session changes the period (`Machine.period_perform`), so this stays so.
-/

namespace Chip8

/-- Nothing that is executed changes the period of the timers. -/
theorem State.Goes.period_eq {s t : State} (h : s.Goes t) : t.timers.period = s.timers.period := by
  cases h with
  | stays => rfl
  | resumes mode register down => rfl
  | @executes i e exec =>
    rw [State.timers_tally, State.timers_of_exec exec]
    split
    · rfl
    · rfl
    · rfl

namespace Machine

variable {m : Machine} {c : Command}

/-- The instruction of a step is followed by ticks, and they are not refused. -/
theorem sample_executeNext (period : m.state.timers.period ≠ 0) (now : Int) :
    ∃ ticks, m.executeNext.machine.state.timers.sample now =
      .ok (ticks, m.executeNext.machine.state.timers.passTo ticks) := by
  have after : m.executeNext.machine.state.timers.period ≠ 0 := by
    rw [m.goes_executeNext.period_eq]
    exact period
  exact ⟨_, Timers.sample_eq after now⟩

/-- **A step answers what its instruction answers.** -/
theorem answer_step (period : m.state.timers.period ≠ 0) (now : Int) :
    (m.step now).answer = m.executeNext.answer.mapError .fault := by
  cases answer : m.executeNext.answer with
  | error f =>
    rw [step_of_error answer]
    rfl
  | ok last =>
    obtain ⟨ticks, sampled⟩ := sample_executeNext period now
    rw [step_of_ok answer sampled]
    rfl

/-- The setup stays in a step. -/
theorem setup_step (m : Machine) (now : Int) : (m.step now).machine.setup = m.setup := by
  have attempted : m.attempt.machine.setup = m.setup := m.setup_attempt.trans m.setup_executeNext
  have answered := answer_attempt m
  rw [step_eq_ticked]
  cases answer : m.executeNext.answer with
  | error f => rw [Outcome.ticked_of_error (answered.trans answer), attempted]
  | ok last =>
    cases sampled : m.attempt.machine.state.timers.sample now with
    | error e =>
      rw [Outcome.ticked_of_timer_error (answered.trans answer) sampled, attempted]
    | ok result => rw [Outcome.ticked_of_ok (answered.trans answer) sampled, setup_tick, attempted]

/-! ### The period stays -/

theorem period_edit {f : State → Except Fault State} (edit : c.edit? = some f) :
    (m.perform c).machine.state.timers.period = m.state.timers.period := by
  rcases frame_perform_of_edit edit m with same | frame
  · rw [same]
  · rw [frame.timers]
    split
    · rfl
    · rfl
    · rfl

theorem period_step (period : m.state.timers.period ≠ 0) (now : Int) :
    (m.step now).machine.state.timers.period = m.state.timers.period := by
  have next := m.goes_executeNext.period_eq
  cases answer : m.executeNext.answer with
  | error f =>
    rw [step_of_error answer, state_attempt]
    exact next
  | ok last =>
    obtain ⟨ticks, sampled⟩ := sample_executeNext period now
    rw [step_of_ok answer sampled, state_tick]
    exact (Timers.period_passTo _ ticks).trans next

theorem period_advanceTimers (m : Machine) (elapsed : Number) :
    (m.advanceTimers elapsed).machine.state.timers.period = m.state.timers.period := by
  cases passed : m.state.timers.advance elapsed with
  | error e => rw [advanceTimers, passed]
  | ok result =>
    obtain ⟨ticks, timers⟩ := result
    rw [advanceTimers, passed, state_tick, Timers.eq_take_of_advance passed]
    exact Timers.period_take _ ticks

theorem period_loadValues (m : Machine) (values : List Int) :
    (m.loadValues values).machine.state.timers.period = m.state.timers.period := by
  obtain ⟨memory, loaded⟩ := m.exists_memory_loadValues values
  rw [loaded]

/-- **No command changes the period of the timers.** -/
theorem period_perform (period : m.state.timers.period ≠ 0) (c : Command) :
    (m.perform c).machine.state.timers.period = m.state.timers.period := by
  cases edit : c.edit? with
  | some f => exact period_edit edit
  | none =>
    cases c with
    | reset now => rfl
    | load values => exact m.period_loadValues values
    | loadProgram values now => exact (m.reset now).machine.period_loadValues values
    | step now => exact period_step period now
    | executeNext => exact m.goes_executeNext.period_eq
    | execute word => exact (m.goes_execute (Word.ofInt word)).period_eq
    | advanceTimers elapsed => exact m.period_advanceTimers elapsed
    | _ => cases edit

theorem period_perform_ne_zero (period : m.state.timers.period ≠ 0) (c : Command) :
    (m.perform c).machine.state.timers.period ≠ 0 := by
  rw [period_perform period c]
  exact period

end Machine

end Chip8
