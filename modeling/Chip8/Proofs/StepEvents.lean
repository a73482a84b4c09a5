import Chip8.Host.Notice
import Chip8.Proofs.Clock
import Chip8.Proofs.KeyWait
import Chip8.Proofs.Recording

/-!
# What is told of a step

An observer of a machine that goes on step by step knows how each step went. A step that is refused
tells of one fault, at its end, and a step that is not refused tells of none; where ticks were
taken, it is told how many, with the counters as they are after them (`Machine.TellsOfStep`,
`Machine.exists_tellsOfStep`).

Behind this is what an attempt to execute the next word can come to (`Machine.Attempted`). There
are six cases, each with the events that it reports, the lines that it writes to the log and what
that says about the state. The order of reports matters in two of them: an instruction is announced
before it is known whether it is refused, and a fault is reported last.
-/

namespace Chip8

/-- Whether a line of the log is a warning. -/
def LogEntry.isWarning (l : LogEntry) : Bool := l.level = .warning

namespace State

/-- An instruction begins to wait, or it reports calls, returns and draws at most. -/
theorem Reports.waits_or_others {s : State} {e : Effect} (h : s.Reports e) :
    (∃ x : RegIndex, e.state = { s with mode := .waitingForKey, waitRegister := some x } ∧
      e.events = [.keyWait s.pc.toNat x.val] ∧ e.log = [.keyWait x.val s.pc.toNat]) ∨
    e.state.mode = s.mode ∧ e.log = [] ∧
      ∀ event ∈ e.events, event.kind = .call ∨ event.kind = .ret ∨ event.kind = .draw := by
  rcases h with ⟨events, log, mode, -⟩ | ⟨events, log, mode, -, -⟩ | ⟨events, log, mode, -, -⟩ |
    ⟨events, log, mode, -⟩ | ⟨events, log, state⟩
  · refine .inr ⟨mode, log, ?_⟩
    rw [events]
    nofun
  · refine .inr ⟨mode, log, ?_⟩
    rw [events]
    exact List.forall_mem_singleton.2 (.inl rfl)
  · refine .inr ⟨mode, log, ?_⟩
    rw [events]
    exact List.forall_mem_singleton.2 (.inr (.inl rfl))
  · refine .inr ⟨mode, log, ?_⟩
    rw [events]
    exact List.forall_mem_singleton.2 (.inr (.inr rfl))
  · exact .inl ⟨_, state, events, log⟩

end State

namespace Machine

variable {m n : Machine} {es : List Event} {now : Int}

/-! ### An attempt -/

/-- **What an attempt to execute the next word comes to**, by the events that it reports. -/
inductive Attempted (m : Machine) : List Event → Prop
  /-- A wait goes on. -/
  | waits {last : Option Word} (answer : m.attempt.answer = .ok last)
      (state : m.attempt.machine.state = m.state) (log : m.attempt.log = []) : Attempted m []
  /-- A key ends a wait. -/
  | resumes {x : RegIndex} {key : Fin 16} {last : Option Word}
      (mode : m.state.mode = .waitingForKey) (answer : m.attempt.answer = .ok last)
      (state : m.attempt.machine.state = m.state.resumed x key)
      (log : m.attempt.log = [.keyResumed key.val x.val]) :
      Attempted m [.keyResume m.state.pc.toNat x.val key.val]
  /-- No word can be fetched, or the word is no instruction. -/
  | unknown {f : Fault} (answer : m.attempt.answer = .error f)
      (state : m.attempt.machine.state = m.state)
      (log : m.attempt.log = [.stepAborted m.state.pc.toNat f]) :
      Attempted m [.fault m.state.pc.toNat f]
  /-- An instruction is announced and refused. -/
  | refused {w : Word} {i : Instr} {f : Fault} (answer : m.attempt.answer = .error f)
      (state : m.attempt.machine.state = m.state)
      (log : m.attempt.log = m.announcement w i ++ [.stepAborted m.state.pc.toNat f]) :
      Attempted m
        [.instruction m.state.pc.toNat w.toNat i.text, .fault m.state.pc.toNat f]
  /-- An instruction begins to wait for a key. -/
  | awaits {w : Word} {i : Instr} {x : RegIndex} {last : Option Word}
      (mode : m.state.mode = .running) (answer : m.attempt.answer = .ok last)
      (state : m.attempt.machine.state =
        { m.state with mode := .waitingForKey, waitRegister := some x })
      (log : m.attempt.log = m.announcement w i ++ [.keyWait x.val m.state.pc.toNat]) :
      Attempted m
        [.instruction m.state.pc.toNat w.toNat i.text, .keyWait m.state.pc.toNat x.val]
  /-- An instruction is completed. -/
  | completes {w : Word} {i : Instr} {last : Option Word} {es : List Event}
      (mode : m.state.mode = .running) (answer : m.attempt.answer = .ok last)
      (mode' : m.attempt.machine.state.mode = .running)
      (executed : m.attempt.machine.state.executed = m.state.executed + 1)
      (log : m.attempt.log = m.announcement w i)
      (others : ∀ e ∈ es, e.kind = .call ∨ e.kind = .ret ∨ e.kind = .draw) :
      Attempted m (.instruction m.state.pc.toNat w.toNat i.text :: es)

/-- Events that are calls, returns and draws are nothing else. -/
theorem kind_ne_of_others (others : ∀ e ∈ es, e.kind = .call ∨ e.kind = .ret ∨ e.kind = .draw)
    (k : Event.Kind) (call : k ≠ .call) (ret : k ≠ .ret) (draw : k ≠ .draw) :
    ∀ e ∈ es, e.kind ≠ k := by
  rintro e he rfl
  rcases others e he with h | h | h
  · exact call h
  · exact ret h
  · exact draw h

/-- An attempt that is refused, with what it had reported before. -/
theorem attempt_of_executeNext_error {log : List LogEntry} {f : Fault}
    (eq : m.executeNext = ⟨n, .error f, log⟩) :
    m.attempt = ⟨n.emit (.fault n.state.pc.toNat f), .error f,
      log ++ [.stepAborted n.state.pc.toNat f]⟩ := by
  have answer : m.executeNext.answer = .error f := by rw [eq]
  rw [attempt_of_error answer, eq]

theorem attempt_of_executeNext_ok {log : List LogEntry} {last : Option Word}
    (eq : m.executeNext = ⟨n, .ok last, log⟩) : m.attempt = ⟨n, .ok last, log⟩ := by
  have answer : m.executeNext.answer = .ok last := by rw [eq]
  rw [attempt_of_ok answer, eq]

/-- The attempt to execute a word that was fetched. -/
theorem exists_attempted_of_fetched {w : Word} (mode : m.state.mode = .running)
    (fetched : m.executeNext = (m.execute w).map some) :
    ∃ es, m.attempt.machine.tracer = m.tracer.report es ∧ m.Attempted es := by
  rcases m.execute_cases w with ⟨-, eq⟩ | ⟨i, f, -, -, eq⟩ | ⟨i, e, -, exec, eq⟩
  · rw [eq] at fetched
    have attempt := attempt_of_executeNext_error fetched
    exact ⟨_, by rw [attempt]; rfl, .unknown (by rw [attempt]) (by rw [attempt]; rfl)
      (by rw [attempt]; rfl)⟩
  · rw [eq] at fetched
    have attempt := attempt_of_executeNext_error fetched
    exact ⟨_, by rw [attempt]; rfl, .refused (by rw [attempt]) (by rw [attempt]; rfl)
      (by rw [attempt]; rfl)⟩
  · rw [eq] at fetched
    have attempt := attempt_of_executeNext_ok fetched
    have tracer : m.attempt.machine.tracer =
        m.tracer.report (.instruction m.state.pc.toNat w.toNat i.text :: e.events) := by
      rw [attempt, tracer_apply, tracer_announce]
      rfl
    have state : m.attempt.machine.state = e.state.tally := by rw [attempt, state_apply]
    have answer : m.attempt.answer = .ok (some w) := by rw [attempt]
    have log : m.attempt.log = m.announcement w i ++ e.log := by rw [attempt]
    refine ⟨_, tracer, ?_⟩
    rcases (State.reports_of_exec exec).waits_or_others with
      ⟨x, waits, events, line⟩ | ⟨running, silent, others⟩
    · rw [waits, State.tally] at state
      rw [line] at log
      rw [events]
      exact .awaits mode answer state log
    · -- Whatever goes on running is counted, and an instruction itself counts nothing.
      have executed : e.state.executed = m.state.executed := (State.frame_of_exec exec).executed
      rw [State.tally_of_running (running.trans mode)] at state
      rw [silent, List.append_nil] at log
      refine .completes mode answer ?_ ?_ log others
      · rw [state]
        exact running.trans mode
      · rw [state, executed]

/-- **An attempt reports what it comes to.** -/
theorem exists_attempted (m : Machine) :
    ∃ es, m.attempt.machine.tracer = m.tracer.report es ∧ m.Attempted es := by
  rcases m.executeNext_cases with
    ⟨mode, -, eq⟩ | ⟨x, key, mode, -, -, eq⟩ | ⟨f, mode, -, eq⟩ | ⟨w, mode, -, eq⟩
  · have attempt := attempt_of_executeNext_ok eq
    exact ⟨_, by rw [attempt]; rfl, .waits (by rw [attempt]) (by rw [attempt]) (by rw [attempt])⟩
  · have attempt := attempt_of_executeNext_ok eq
    exact ⟨_, by rw [attempt]; rfl, .resumes mode (by rw [attempt]) (by rw [attempt]; rfl)
      (by rw [attempt])⟩
  · have attempt := attempt_of_executeNext_error eq
    exact ⟨_, by rw [attempt]; rfl, .unknown (by rw [attempt]) (by rw [attempt]; rfl)
      (by rw [attempt]; rfl)⟩
  · exact exists_attempted_of_fetched mode eq

/-! ### What is told of a step -/

theorem filter_isWarning_announcement (m : Machine) (w : Word) (i : Instr) :
    (m.announcement w i).filter LogEntry.isWarning = [] := by
  rw [announcement]
  split
  · rfl
  · rfl

/-- What events tell of a step at a clock reading. -/
structure TellsOfStep (m : Machine) (now : Int) (es : List Event) : Prop where
  /-- A step that is refused tells of one fault, at its end: where the machine stands and still
  stands, and why it was refused. It writes one warning. -/
  refused : ∀ r, (m.step now).answer = .error r → ∃ f before,
    r = .fault f ∧
    es = before ++ [.fault m.state.pc.toNat f] ∧ Event.count .fault before = 0 ∧
    (Host.Notice.ofEvent (.fault m.state.pc.toNat f)).details =
      [("error", .text f.kind.name), ("message", .text f.message)] ∧
    (m.step now).machine.state.pc = m.state.pc ∧
    (m.step now).log.filter LogEntry.isWarning = [.stepAborted m.state.pc.toNat f]
  /-- A step that is not refused tells of no fault and warns of nothing. -/
  completed : ∀ last, (m.step now).answer = .ok last →
    Event.count .fault es = 0 ∧ (m.step now).log.filter LogEntry.isWarning = []
  /-- Ticks are told with the counters as they are after them. -/
  ticks : ∀ ticks delay sound, .timerTick ticks delay sound ∈ es →
    delay = max 0 (m.executeNext.machine.state.timers.delay - ticks) ∧
    sound = max 0 (m.executeNext.machine.state.timers.sound - ticks) ∧
    (m.step now).machine.state.timers.delay = delay ∧
    (m.step now).machine.state.timers.sound = sound

/-- An attempt leaves the period of the timers alone. -/
theorem sample_attempt (period : m.state.timers.period ≠ 0) (now : Int) :
    ∃ ticks, m.attempt.machine.state.timers.sample now =
      .ok (ticks, m.attempt.machine.state.timers.passTo ticks) := by
  rw [state_attempt]
  exact sample_executeNext period now

/-- An attempt that is refused reports one fault, at its end. -/
theorem Attempted.exists_fault {f : Fault} (h : m.Attempted es)
    (answer : m.attempt.answer = .error f) :
    ∃ before, es = before ++ [.fault m.state.pc.toNat f] ∧ Event.count .fault before = 0 ∧
      m.attempt.machine.state = m.state ∧
      m.attempt.log.filter LogEntry.isWarning = [.stepAborted m.state.pc.toNat f] := by
  rcases h with ⟨answer', -, -⟩ | ⟨-, answer', -, -⟩ | ⟨answer', state, log⟩ |
    ⟨answer', state, log⟩ | ⟨-, answer', -, -⟩ | ⟨-, answer', -, -, -, -⟩
  · cases answer.symm.trans answer'
  · cases answer.symm.trans answer'
  · cases answer.symm.trans answer'
    refine ⟨[], rfl, rfl, state, ?_⟩
    rw [log]
    rfl
  · cases answer.symm.trans answer'
    refine ⟨[_], rfl, rfl, state, ?_⟩
    rw [log, List.filter_append, filter_isWarning_announcement]
    rfl
  · cases answer.symm.trans answer'
  · cases answer.symm.trans answer'

/-- An attempt that is not refused reports no fault. -/
theorem Attempted.no_fault {last : Option Word} (h : m.Attempted es)
    (answer : m.attempt.answer = .ok last) :
    Event.count .fault es = 0 ∧ m.attempt.log.filter LogEntry.isWarning = [] := by
  rcases h with ⟨-, -, log⟩ | ⟨-, -, -, log⟩ | ⟨answer', -, -⟩ | ⟨answer', -, -⟩ | ⟨-, -, -, log⟩ |
    ⟨-, -, -, -, log, others⟩
  · rw [log]
    exact ⟨rfl, rfl⟩
  · rw [log]
    exact ⟨rfl, rfl⟩
  · cases answer.symm.trans answer'
  · cases answer.symm.trans answer'
  · rw [log, List.filter_append, filter_isWarning_announcement]
    exact ⟨rfl, rfl⟩
  · rw [log, filter_isWarning_announcement]
    refine ⟨Event.count_eq_zero (List.forall_mem_cons.2 ⟨nofun, ?_⟩), rfl⟩
    exact kind_ne_of_others others .fault nofun nofun nofun

/-- An attempt reports no ticks. -/
theorem Attempted.no_tick (h : m.Attempted es) : ∀ e ∈ es, e.kind ≠ .timerTick := by
  rcases h with - | - | - | - | - | ⟨-, -, -, -, -, others⟩
  · nofun
  · exact List.forall_mem_singleton.2 nofun
  · exact List.forall_mem_singleton.2 nofun
  · exact List.forall_mem_cons.2 ⟨nofun, List.forall_mem_singleton.2 nofun⟩
  · exact List.forall_mem_cons.2 ⟨nofun, List.forall_mem_singleton.2 nofun⟩
  · exact List.forall_mem_cons.2
      ⟨nofun, kind_ne_of_others others .timerTick nofun nofun nofun⟩

/-- What is told of ticks that were taken up to a clock reading. -/
theorem eq_of_mem_tickEvents {t : Timers} {ticks told delay sound : Int}
    (h : .timerTick told delay sound ∈ tickEvents ticks (t.passTo ticks)) :
    delay = max 0 (t.delay - told) ∧ sound = max 0 (t.sound - told) ∧
      (t.passTo ticks).delay = delay ∧ (t.passTo ticks).sound = sound := by
  rw [tickEvents] at h
  split at h
  · cases h
  · next some =>
    have passed : t.passTo ticks =
        { t.decay ticks with baseline := t.baseline + ticks * t.period } := by
      rw [Timers.passTo, Timers.take, if_neg some]
    have same := List.mem_singleton.1 h
    rw [passed] at same ⊢
    cases same
    exact ⟨rfl, rfl, rfl, rfl⟩

/-- **What a step reports tells how it went.** -/
theorem exists_tellsOfStep (period : m.state.timers.period ≠ 0) (now : Int) :
    ∃ es, (m.step now).machine.tracer = m.tracer.report es ∧ m.TellsOfStep now es := by
  obtain ⟨es, tracer, attempted⟩ := m.exists_attempted
  rcases answer : m.attempt.answer with f | last
  · have step : m.step now = _ := Outcome.ticked_of_error answer
    obtain ⟨before, events, single, state, warning⟩ := attempted.exists_fault answer
    refine ⟨es, by rw [step, tracer], ?_, ?_, ?_⟩
    · intro r refused
      rw [step] at refused ⊢
      cases refused
      exact ⟨f, before, rfl, events, single, rfl, congrArg State.pc state, warning⟩
    · intro last completed
      rw [step] at completed
      cases completed
    · intro ticks delay sound told
      exact absurd rfl (attempted.no_tick _ told)
  · obtain ⟨ticks, sampled⟩ := sample_attempt period now
    have step : m.step now = _ := Outcome.ticked_of_ok answer sampled
    obtain ⟨none, silent⟩ := attempted.no_fault answer
    refine ⟨es ++ tickEvents ticks (m.attempt.machine.state.timers.passTo ticks), ?_, ?_, ?_, ?_⟩
    · rw [step, tracer_tick, tracer, Tracer.report_append]
    · intro r refused
      rw [step] at refused
      cases refused
    · intro last' completed
      refine ⟨?_, by rw [step, silent]⟩
      rw [Event.count_append, none, tickEvents]
      split
      · rfl
      · rfl
    · intro told delay sound h
      rw [step, state_tick, ← state_attempt]
      rcases List.mem_append.1 h with h | h
      · exact absurd rfl (attempted.no_tick _ h)
      · exact eq_of_mem_tickEvents h

end Machine

end Chip8
