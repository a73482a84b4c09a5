import Chip8.Proofs.Edit
import Chip8.Proofs.Frame
import Chip8.Proofs.Step
import Chip8.Proofs.Ticks
import Mathlib.Tactic.Ring

/-!
# Counters lose time, not steps

The delay and the sound counter lose one per period, and how often a host steps a machine, or
whether its steps are refused, makes no difference. This module says so by an account of a session.

* A `Moment` is something in a session that matters for the counters: a counter was written, a step
  was completed at a clock reading, or a host let a duration pass. `Machine.history` lists them.
* `Timers.Through` is how timers come through a list of moments, and `Machine.through_history` says
  that a session takes the timers through its own history.
* `Timers.Accounted` is the account: the ticks of all steps together are the whole periods up to the
  latest clock reading, the baseline has moved by just as much, and a counter is what was last
  written to it less the ticks since then, or zero.

The one computation behind it is `Timers.add_ticks_eq`. The baseline lags behind the latest clock
reading by less than a period, so the ticks that a further reading adds do not depend on where it
was cut into steps. A reading that is not the latest adds nothing.
-/

namespace Chip8

/-- Something in a session that matters for the counters. -/
inductive Moment
  /-- A counter was set to a value, by an instruction or by the host. -/
  | written (counter : Timers.Counter) (value : Int)
  /-- A step was completed at a clock reading and took some ticks. -/
  | stepped (now ticks : Int)
  /-- The host let some ticks pass. -/
  | passed (ticks : Int)
  deriving DecidableEq, Repr

namespace Moment

/-- The latest of `start` and the clock readings of the completed steps. -/
def latest (start : Int) (ms : List Moment) : Int :=
  ms.foldl (fun t m ↦ match m with | stepped now _ => max t now | _ => t) start

/-- The ticks that all steps took together. -/
def stepTicks (ms : List Moment) : Int :=
  ms.foldl (fun n m ↦ match m with | stepped _ ticks => n + ticks | _ => n) 0

/-- What was last written to a counter, modulo 256, and zero if nothing was. -/
def lastWritten (c : Timers.Counter) (ms : List Moment) : Int :=
  ms.foldl (fun v m ↦ match m with | written d value => if d = c then value % 256 else v | _ => v) 0

/-- The ticks since a counter was last written, or all of them if it never was. -/
def ticksSince (c : Timers.Counter) (ms : List Moment) : Int :=
  ms.foldl
    (fun n m ↦ match m with
      | written d _ => if d = c then 0 else n
      | stepped _ ticks => n + ticks
      | passed ticks => n + ticks) 0

theorem latest_concat (start : Int) (ms : List Moment) (m : Moment) :
    latest start (ms ++ [m]) =
      match m with | stepped now _ => max (latest start ms) now | _ => latest start ms := by
  rw [latest, List.foldl_append]
  rfl

theorem stepTicks_concat (ms : List Moment) (m : Moment) :
    stepTicks (ms ++ [m]) =
      match m with | stepped _ ticks => stepTicks ms + ticks | _ => stepTicks ms := by
  rw [stepTicks, List.foldl_append]
  rfl

theorem lastWritten_concat (c : Timers.Counter) (ms : List Moment) (m : Moment) :
    lastWritten c (ms ++ [m]) =
      match m with
      | written d value => if d = c then value % 256 else lastWritten c ms
      | _ => lastWritten c ms := by
  rw [lastWritten, List.foldl_append]
  rfl

theorem ticksSince_concat (c : Timers.Counter) (ms : List Moment) (m : Moment) :
    ticksSince c (ms ++ [m]) =
      match m with
      | written d _ => if d = c then 0 else ticksSince c ms
      | stepped _ ticks => ticksSince c ms + ticks
      | passed ticks => ticksSince c ms + ticks := by
  rw [ticksSince, List.foldl_append]
  rfl

end Moment

namespace Timers

variable {t u : Timers} {ms ns : List Moment} {start now period ticks : Int}

/-- How timers come through a list of moments. -/
inductive Through : Timers → List Moment → Timers → Prop
  | nil (t : Timers) : t.Through [] t
  | written {t u : Timers} {ms : List Moment} (c : Counter) (value : Int)
      (rest : (t.set c value).Through ms u) : t.Through (.written c value :: ms) u
  | stepped {t u : Timers} {ms : List Moment} {ticks : Int} (now : Int)
      (sampled : ticks = max 0 (now - t.baseline) / t.period)
      (rest : (t.passTo ticks).Through ms u) : t.Through (.stepped now ticks :: ms) u
  | passed {t u : Timers} {ms : List Moment} {ticks : Int} (nonneg : 0 ≤ ticks)
      (rest : (t.take ticks).Through ms u) : t.Through (.passed ticks :: ms) u

theorem Through.append {v : Timers} (h : t.Through ms u) (h' : u.Through ns v) :
    t.Through (ms ++ ns) v := by
  induction h with
  | nil t => exact h'
  | written c value _ ih => exact .written c value (ih h')
  | stepped now sampled _ ih => exact .stepped now sampled (ih h')
  | passed nonneg _ ih => exact .passed nonneg (ih h')

/-- Nothing that timers come through changes their period. -/
theorem Through.period_eq (h : t.Through ms u) : u.period = t.period := by
  induction h with
  | nil t => rfl
  | written c value _ ih => rw [ih, period_set]
  | stepped now _ _ ih => rw [ih, period_passTo]
  | passed _ _ ih => rw [ih, period_take]

/-! ### The account -/

/-- The account of timers that started at a clock reading and came through some moments. -/
structure Accounted (start period : Int) (ms : List Moment) (t : Timers) : Prop where
  period_eq : t.period = period
  ticks : Moment.stepTicks ms = (Moment.latest start ms - start) / period
  baseline : t.baseline = start + period * ((Moment.latest start ms - start) / period)
  count : ∀ c, t.count c = max 0 (Moment.lastWritten c ms - Moment.ticksSince c ms)

/-- **The ticks that one more clock reading adds.** With `latest` the latest reading before it, the
baseline is the last whole period up to that. -/
theorem add_ticks_eq (period_pos : 0 < period) (latest start now : Int) :
    (latest - start) / period +
        max 0 (now - (start + period * ((latest - start) / period))) / period =
      (max latest now - start) / period := by
  generalize hq : (latest - start) / period = q
  have lag : period * q ≤ latest - start := by
    rw [← hq, Int.mul_comm]
    exact Int.ediv_mul_le _ period_pos.ne'
  rcases le_total (start + period * q) now with ahead | behind
  · have gain : max 0 (now - (start + period * q)) = (now - start) + period * -q := by
      rw [max_eq_right (by omega)]
      ring
    rw [gain, Int.add_mul_ediv_left _ _ period_pos.ne']
    rcases le_total latest now with later | earlier
    · rw [max_eq_right later]
      ring
    · -- Both readings lie in the same period, so neither takes a tick that the other does not.
      have upper : (now - start) / period ≤ q := by
        rw [← hq]
        exact Int.ediv_le_ediv period_pos (by omega)
      have lower : q ≤ (now - start) / period := by
        refine Int.le_ediv_of_mul_le period_pos ?_
        rw [Int.mul_comm]
        omega
      rw [max_eq_left earlier, hq]
      omega
  · rw [max_eq_left (a := (0 : Int)) (by omega), Int.zero_ediv, max_eq_left (by omega), hq]
    omega

namespace Accounted

/-- A reset opens an account. -/
theorem of_reset (t : Timers) (start : Int) : Accounted start t.period [] (t.reset start) where
  period_eq := rfl
  ticks := by
    show 0 = (start - start) / t.period
    rw [Int.sub_self, Int.zero_ediv]
  baseline := by
    show start = start + t.period * ((start - start) / t.period)
    rw [Int.sub_self, Int.zero_ediv, Int.mul_zero, Int.add_zero]
  count c := by
    cases c with
    | delay => rfl
    | sound => rfl

theorem written (h : Accounted start period ms t) (c : Counter) (value : Int) :
    Accounted start period (ms ++ [.written c value]) (t.set c value) where
  period_eq := by rw [period_set, h.period_eq]
  ticks := by
    rw [Moment.stepTicks_concat, Moment.latest_concat]
    exact h.ticks
  baseline := by
    rw [Moment.latest_concat, baseline_set]
    exact h.baseline
  count d := by
    rw [Moment.lastWritten_concat, Moment.ticksSince_concat, count_set]
    by_cases same : c = d
    · simp only [if_pos same]
      omega
    · simp only [if_neg same]
      exact h.count d

theorem passed (h : Accounted start period ms t) (nonneg : 0 ≤ ticks) :
    Accounted start period (ms ++ [.passed ticks]) (t.take ticks) where
  period_eq := by rw [period_take, h.period_eq]
  ticks := by
    rw [Moment.stepTicks_concat, Moment.latest_concat]
    exact h.ticks
  baseline := by
    rw [Moment.latest_concat, baseline_take]
    exact h.baseline
  count c := by
    have counted := h.count c
    rw [Moment.lastWritten_concat, Moment.ticksSince_concat, count_take (by omega), counted]
    dsimp only
    omega

theorem stepped (h : Accounted start period ms t) (period_pos : 0 < period)
    (sampled : ticks = max 0 (now - t.baseline) / t.period) :
    Accounted start period (ms ++ [.stepped now ticks]) (t.passTo ticks) := by
  have nonneg : 0 ≤ ticks := by
    rw [sampled, h.period_eq]
    exact Int.ediv_nonneg (le_max_left _ _) period_pos.le
  have gain := add_ticks_eq period_pos (Moment.latest start ms) start now
  rw [← h.baseline, ← h.period_eq, ← sampled, h.period_eq] at gain
  refine ⟨?_, ?_, ?_, ?_⟩
  · show (t.take ticks).period = period
    rw [period_take, h.period_eq]
  · rw [Moment.stepTicks_concat, Moment.latest_concat]
    dsimp only
    rw [h.ticks, gain]
  · rw [Moment.latest_concat]
    dsimp only
    rw [← gain, Int.mul_add, ← Int.add_assoc, ← h.baseline, ← h.period_eq, Int.mul_comm _ ticks]
    rfl
  · intro c
    have counted := (h.passed nonneg).count c
    rw [Moment.lastWritten_concat, Moment.ticksSince_concat] at counted ⊢
    rw [count_passTo]
    exact counted

/-- **The account is kept through any moments.** -/
theorem through (h : Accounted start period ms t) (period_pos : 0 < period)
    (passes : t.Through ns u) : Accounted start period (ms ++ ns) u := by
  induction passes generalizing ms with
  | nil t =>
    rw [List.append_nil]
    exact h
  | written c value _ ih =>
    rw [List.append_cons]
    exact ih (h.written c value)
  | stepped now sampled _ ih =>
    rw [List.append_cons]
    exact ih (h.stepped period_pos sampled)
  | passed nonneg _ ih =>
    rw [List.append_cons]
    exact ih (h.passed nonneg)

end Accounted

end Timers

namespace Machine

variable {m : Machine} {c : Command} {now : Int}

/-! ### The history of a session -/

/-- What executing a word writes to the counters. -/
def writtenBy (m : Machine) (w : Word) : List Moment :=
  match decode w with
  | some (.setDelay x) => [.written .delay (m.state.v x).toNat]
  | some (.setSound x) => [.written .sound (m.state.v x).toNat]
  | _ => []

/-- What executing the next word writes to the counters. -/
def writtenNext (m : Machine) : List Moment :=
  match m.state.mode with
  | .waitingForKey => []
  | .running =>
    match m.state.memory.readWord m.state.pc.toNat with
    | .error _ => []
    | .ok w => m.writtenBy w

/-- The step at a clock reading, if it is completed, with the ticks that it takes. -/
def steppedAt (m : Machine) (now : Int) : List Moment :=
  match (m.step now).answer, m.attempt.machine.state.timers.sample now with
  | .ok _, .ok (ticks, _) => [.stepped now ticks]
  | _, _ => []

/-- What a command is for the counters. -/
def moments (m : Machine) : Command → List Moment
  | .execute word => m.writtenBy (Word.ofInt word)
  | .executeNext => m.writtenNext
  | .step now => m.writtenNext ++ m.steppedAt now
  | .setDelay value => [.written .delay value]
  | .setSound value => [.written .sound value]
  | .advanceTimers (.int elapsed) => [.passed (elapsed / m.state.timers.period)]
  | _ => []

/-- What a session is for the counters. -/
def history (m : Machine) : List Command → List Moment
  | [] => []
  | c :: cs => m.moments c ++ (m.perform c).machine.history cs

end Machine

/-- The commands of a session that starts with a reset: no other one follows, and durations are
whole milliseconds. -/
def Command.KeepsTime : Command → Prop
  | .reset _ => False
  | .loadProgram .. => False
  | .advanceTimers (.int elapsed) => 0 ≤ elapsed
  | .advanceTimers (.double _) => False
  | _ => True

namespace Machine

variable {m : Machine} {c : Command} {now : Int}

theorem through_execute (m : Machine) (w : Word) :
    m.state.timers.Through (m.writtenBy w) (m.execute w).machine.state.timers := by
  rcases m.execute_cases w with
    ⟨decodes, eq⟩ | ⟨i, f, decodes, exec, eq⟩ | ⟨i, e, decodes, exec, eq⟩
  · rw [eq, writtenBy, decodes]
    exact .nil _
  · rw [eq, writtenBy, decodes]
    -- Setting a counter is never refused.
    cases i with
    | setDelay x => cases exec
    | setSound x => cases exec
    | _ => exact .nil _
  · rw [eq, state_apply, writtenBy, decodes, State.timers_tally, State.timers_of_exec exec]
    cases i with
    | setDelay x => exact .written .delay _ (.nil _)
    | setSound x => exact .written .sound _ (.nil _)
    | _ => exact .nil _

theorem through_executeNext (m : Machine) :
    m.state.timers.Through m.writtenNext m.executeNext.machine.state.timers := by
  rcases m.executeNext_cases with
    ⟨mode, -, eq⟩ | ⟨x, key, mode, -, -, eq⟩ | ⟨f, mode, read, eq⟩ | ⟨w, mode, read, eq⟩
  · rw [eq, writtenNext, mode]
    exact .nil _
  · rw [eq, writtenNext, mode]
    exact .nil _
  · rw [eq, writtenNext, mode, read]
    exact .nil _
  · rw [eq, writtenNext, mode, read]
    exact through_execute m w

/-- A step that is refused is no moment: its reading is one that the next step makes up for. -/
theorem through_step (period_pos : 0 < m.state.timers.period) (now : Int) :
    m.state.timers.Through (m.writtenNext ++ m.steppedAt now) (m.step now).machine.state.timers := by
  have next := through_executeNext m
  refine next.append ?_
  have attempted : m.attempt.machine.state.timers = m.executeNext.machine.state.timers := by
    rw [state_attempt]
  cases answer : m.executeNext.answer with
  | error f =>
    rw [steppedAt, step_of_error answer, attempted]
    exact .nil _
  | ok last =>
    have period_pos' : 0 < m.executeNext.machine.state.timers.period := by
      rw [next.period_eq]
      exact period_pos
    have sampled := Timers.sample_eq period_pos'.ne' now
    rw [steppedAt, step_of_ok answer sampled, attempted, sampled, state_tick]
    exact .stepped now (Timers.due_eq period_pos' now) (.nil _)

/-- Commands that edit write the counters that they set, and are never refused then. -/
theorem through_edit {f : State → Except Fault State} (edit : c.edit? = some f) (m : Machine) :
    m.state.timers.Through (m.moments c) (m.perform c).machine.state.timers := by
  cases c with
  | setDelay value => exact .written .delay value (.nil _)
  | setSound value => exact .written .sound value (.nil _)
  | reset now | load values | loadProgram values now | step now | executeNext | execute word
  | advanceTimers elapsed => cases edit
  | _ =>
    rcases frame_perform_of_edit edit m with same | frame
    · rw [same]
      exact .nil _
    · rw [frame.timers]
      exact .nil _

theorem through_advanceTimers (period_pos : 0 < m.state.timers.period) {elapsed : Int}
    (nonneg : 0 ≤ elapsed) :
    m.state.timers.Through [.passed (elapsed / m.state.timers.period)]
      (m.advanceTimers (.int elapsed)).machine.state.timers := by
  rw [advanceTimers, Timers.advance_of_period_pos period_pos nonneg]
  show m.state.timers.Through _ (m.tick _ _).state.timers
  rw [state_tick]
  exact .passed (Int.ediv_nonneg nonneg period_pos.le) (.nil _)

/-- **One command takes the timers through its moments.** -/
theorem through_perform (period_pos : 0 < m.state.timers.period) (keeps : c.KeepsTime) :
    m.state.timers.Through (m.moments c) (m.perform c).machine.state.timers := by
  cases edit : c.edit? with
  | some f => exact through_edit edit m
  | none =>
    cases c with
    | load values =>
      obtain ⟨memory, loaded⟩ := m.exists_memory_loadValues values
      show m.state.timers.Through [] (m.loadValues values).machine.state.timers
      rw [loaded]
      exact .nil _
    | step now => exact through_step period_pos now
    | executeNext => exact through_executeNext m
    | execute word => exact through_execute m (Word.ofInt word)
    | advanceTimers elapsed =>
      cases elapsed with
      | int elapsed => exact through_advanceTimers period_pos keeps
      | double elapsed => exact keeps.elim
    | reset now => exact keeps.elim
    | loadProgram values now => exact keeps.elim
    | _ => cases edit

/-- **A session takes the timers through its history.** -/
theorem through_history {cs : List Command} (period_pos : 0 < m.state.timers.period)
    (keeps : ∀ c ∈ cs, c.KeepsTime) :
    m.state.timers.Through (m.history cs) (m.after cs).state.timers := by
  induction cs generalizing m with
  | nil => exact .nil _
  | cons c cs ih =>
    have performed := through_perform period_pos (keeps c List.mem_cons_self)
    refine performed.append (ih ?_ fun d hd ↦ keeps d (List.mem_cons_of_mem c hd))
    rw [performed.period_eq]
    exact period_pos

/-- **Counters lose time, not steps.** After a reset at the clock reading `start`, and whatever a
host does short of another reset, the steps together have taken the whole periods up to the latest
reading of a completed step. The baseline has moved by these periods, and each counter is what was
last written to it less the ticks since then, or zero. -/
theorem decay_of_session (m : Machine) (start : Int) (cs : List Command)
    (period_pos : 0 < m.state.timers.period) (keeps : ∀ c ∈ cs, c.KeepsTime) :
    let ms := (m.reset start).machine.history cs
    let timers := ((m.reset start).machine.after cs).state.timers
    let periods := (Moment.latest start ms - start) / m.state.timers.period
    Moment.stepTicks ms = periods ∧
      timers.baseline = start + m.state.timers.period * periods ∧
      ∀ c, timers.count c = max 0 (Moment.lastWritten c ms - Moment.ticksSince c ms) := by
  have account :
      Timers.Accounted start m.state.timers.period [] (m.reset start).machine.state.timers :=
    .of_reset m.state.timers start
  have through := through_history (m := (m.reset start).machine) period_pos keeps
  have final := account.through period_pos through
  exact ⟨final.ticks, final.baseline, final.count⟩

/-- A session in which a wait goes on, the clock goes back, the wait ends and a step is refused. -/
def decaySession : List Command :=
  [.setDelay 10, .execute 0xF00A, .step 150, .step 90, .setRegister 1 7, .execute 0xF118,
    .keyDown 3, .step 200, .step 250, .advanceTimers (.int 40)]

/-- The last reading counts for nothing, and the backward one neither. -/
theorem decay_of_decaySession :
    ((standard 0x200).reset 100).machine.history decaySession =
      [.written .delay 10, .stepped 150 2, .stepped 90 0, .written .sound 7, .stepped 200 3,
        .passed 2] ∧
    (((standard 0x200).reset 100).machine.after decaySession).state.timers.baseline = 185 ∧
    (((standard 0x200).reset 100).machine.after decaySession).state.timers.count .delay = 3 ∧
    (((standard 0x200).reset 100).machine.after decaySession).state.timers.count .sound = 2 := by
  have keeps : ∀ c ∈ decaySession, c.KeepsTime := by
    simp [decaySession, Command.KeepsTime]
  obtain ⟨-, baseline, count⟩ :=
    decay_of_session (standard 0x200) 100 decaySession (by decide) keeps
  have history : ((standard 0x200).reset 100).machine.history decaySession =
      [.written .delay 10, .stepped 150 2, .stepped 90 0, .written .sound 7, .stepped 200 3,
        .passed 2] := by
    decide +kernel
  rw [history] at baseline count
  refine ⟨history, baseline, ?_, ?_⟩
  · rw [count]
    decide
  · rw [count]
    decide

end Machine

end Chip8
