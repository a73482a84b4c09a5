import Chip8.Proofs.Decay
import Chip8.Proofs.Reset
import Chip8.Proofs.StepEvents
import Mathlib.Algebra.BigOperators.Group.List.Basic
import Mathlib.Data.List.Induction

/-!
# The events of a session add up

An observer that stays registered can keep the books of a machine: from the events alone it knows
how many instructions were completed, whether the machine waits for a key, which lines stand in the
log and how many ticks the steps took (`Machine.account_of_session`).

The books are kept command by command: `Machine.Balanced` says what events, lines, refused
instructions and ticks account for between two machines, and its entries add up
(`Machine.Balanced.trans`). An attempt keeps the books in each of the six cases that it can come to
(`Machine.Attempted.balanced`), and the ticks after it do so too. Whatever else a host does to the
machine reports nothing.

Two numbers do not simply count events. An instruction that is announced and then refused is not
completed, so a step that reports both an instruction and a fault is taken off the count of
instructions. And an instruction that begins to wait is counted when its wait ends.
-/

namespace Chip8

/-! ### What events stand for -/

namespace Event

/-- The ticks that an event tells of. -/
def ticks : Event → Int
  | timerTick ticks _ _ => ticks
  | _ => 0

/-- The line of the log that is written for an event when instructions are traced. -/
def line? : Event → Option LogEntry
  | instruction pc word text => some (.instruction pc word text)
  | _ => none

/-- Whether an instruction was announced and refused. -/
def isSpoiled (es : List Event) : Bool :=
  es.any (fun e ↦ e.kind = .instruction) && es.any (fun e ↦ e.kind = .fault)

theorem line?_eq_none {e : Event} (h : e.kind ≠ .instruction) : e.line? = none := by
  cases e with
  | instruction pc word text => exact absurd rfl h
  | _ => rfl

theorem ticks_eq_zero {e : Event} (h : e.kind ≠ .timerTick) : e.ticks = 0 := by
  cases e with
  | timerTick ticks delay sound => exact absurd rfl h
  | _ => rfl

/-- Events of which none is a tick tell of no ticks. -/
theorem sum_ticks_eq_zero {es : List Event} (h : ∀ e ∈ es, e.kind ≠ .timerTick) :
    (es.map ticks).sum = 0 := by
  refine List.sum_eq_zero fun n hn ↦ ?_
  obtain ⟨e, he, rfl⟩ := List.mem_map.1 hn
  exact ticks_eq_zero (h e he)

theorem isSpoiled_eq_false {es : List Event} (h : ∀ e ∈ es, e.kind ≠ .fault) :
    isSpoiled es = false := by
  have none : es.any (fun e ↦ e.kind = .fault) = false := by
    rw [List.any_eq_false]
    intro e he
    simpa using h e he
  rw [isSpoiled, none, Bool.and_false]

end Event

namespace State

/-- One while the machine waits for a key, and zero otherwise. -/
def waiting (s : State) : Int :=
  match s.mode with
  | .running => 0
  | .waitingForKey => 1

theorem waiting_of_mode_eq {s t : State} (h : t.mode = s.mode) : t.waiting = s.waiting := by
  rw [waiting, waiting, h]

theorem waiting_of_running {s : State} (h : s.mode = .running) : s.waiting = 0 := by
  rw [waiting, h]

theorem waiting_of_waitingForKey {s : State} (h : s.mode = .waitingForKey) : s.waiting = 1 := by
  rw [waiting, h]

end State

namespace Machine

variable {m n l : Machine} {o : Observer} {es fs : List Event} {log log' : List LogEntry}
  {spoiled spoiled' ticks ticks' : Int}

/-! ### The books -/

/-- What events, lines of the log, instructions that were announced and refused, and the ticks of
steps account for between a machine and a later one. -/
structure Balanced (m n : Machine) (es : List Event) (log : List LogEntry) (spoiled ticks : Int) :
    Prop where
  tracer : n.tracer = m.tracer.report es
  executed : (n.state.executed : Int) =
    m.state.executed + (Event.count .instruction es - spoiled - Event.count .keyWait es +
      Event.count .keyResume es)
  waiting : n.state.waiting =
    m.state.waiting + (Event.count .keyWait es - Event.count .keyResume es)
  lines : log.filter LogEntry.isTrace = es.filterMap Event.line?
  ticks : (es.map Event.ticks).sum = ticks

namespace Balanced

/-- Nothing is reported, nothing is completed, and the machine waits or not as before. -/
theorem of_silent (tracer : n.tracer = m.tracer) (executed : n.state.executed = m.state.executed)
    (mode : n.state.mode = m.state.mode) (lines : log.filter LogEntry.isTrace = []) :
    m.Balanced n [] log 0 0 where
  tracer := tracer
  executed := by
    rw [executed]
    rfl
  waiting := by
    rw [State.waiting_of_mode_eq mode, Event.count_nil, Event.count_nil, Int.sub_zero,
      Int.add_zero]
  lines := lines
  ticks := rfl

/-- **The entries of the books add up.** -/
theorem trans (h : m.Balanced n es log spoiled ticks) (h' : n.Balanced l fs log' spoiled' ticks') :
    m.Balanced l (es ++ fs) (log ++ log') (spoiled + spoiled') (ticks + ticks') where
  tracer := by rw [h'.tracer, h.tracer, Tracer.report_append]
  executed := by
    have first := h.executed
    have second := h'.executed
    simp only [Event.count_append]
    omega
  waiting := by
    have first := h.waiting
    have second := h'.waiting
    simp only [Event.count_append]
    omega
  lines := by rw [List.filter_append, List.filterMap_append, h.lines, h'.lines]
  ticks := by rw [List.map_append, List.sum_append, h.ticks, h'.ticks]

end Balanced

/-- A machine that traces instructions announces one by a line of the log. -/
theorem announcement_of_traced (traced : m.setup.traceInstructions = true) (w : Word) (i : Instr) :
    m.announcement w i = [.instruction m.state.pc.toNat w.toNat i.text] := by
  rw [announcement, if_pos traced]

/-- **An attempt keeps the books.** -/
theorem Attempted.balanced (h : m.Attempted es) (traced : m.setup.traceInstructions = true)
    (tracer : m.attempt.machine.tracer = m.tracer.report es) :
    m.Balanced m.attempt.machine es m.attempt.log (if Event.isSpoiled es then 1 else 0) 0 := by
  rcases h with ⟨-, state, log⟩ | ⟨mode, -, state, log⟩ | ⟨-, state, log⟩ | ⟨-, state, log⟩ |
    ⟨mode, -, state, log⟩ | @⟨w, i, last, es, mode, -, mode', executed, log, others⟩
  · rw [log]
    refine .of_silent tracer ?_ ?_ rfl
    · rw [state]
    · rw [state]
  · refine ⟨tracer, ?_, ?_, ?_, rfl⟩
    · rw [state, State.executed_resumed]
      simp [Event.kind, Event.isSpoiled]
    · rw [State.waiting_of_waitingForKey mode, state,
        State.waiting_of_running (m.state.mode_resumed _ _)]
      simp [Event.kind]
    · rw [log]
      rfl
  · refine ⟨tracer, ?_, ?_, ?_, rfl⟩
    · rw [state]
      simp [Event.kind, Event.isSpoiled]
    · rw [state]
      simp [Event.kind]
    · rw [log]
      rfl
  · -- The instruction that was announced is one that was refused, so the count stays.
    refine ⟨tracer, ?_, ?_, ?_, rfl⟩
    · rw [state]
      simp [Event.kind, Event.isSpoiled]
    · rw [state]
      simp [Event.kind]
    · rw [log, announcement_of_traced traced]
      rfl
  · -- It is one that waits.
    refine ⟨tracer, ?_, ?_, ?_, rfl⟩
    · rw [state]
      simp [Event.kind, Event.isSpoiled]
    · rw [State.waiting_of_running mode, state, State.waiting_of_waitingForKey rfl]
      simp [Event.kind]
    · rw [log, announcement_of_traced traced]
      rfl
  · have none (k : Event.Kind) (call : k ≠ .call) (ret : k ≠ .ret) (draw : k ≠ .draw) :
        Event.count k es = 0 :=
      Event.count_eq_zero (kind_ne_of_others others k call ret draw)
    have completed : Event.isSpoiled (.instruction m.state.pc.toNat w.toNat i.text :: es) = false :=
      Event.isSpoiled_eq_false (List.forall_mem_cons.2
        ⟨nofun, kind_ne_of_others others .fault nofun nofun nofun⟩)
    refine ⟨tracer, ?_, ?_, ?_, ?_⟩
    · rw [executed, completed]
      simp [Event.kind, none]
    · rw [State.waiting_of_running mode, State.waiting_of_running mode']
      simp [Event.kind, none]
    · have lines : es.filterMap Event.line? = [] := by
        rw [List.filterMap_eq_nil_iff]
        exact fun e he ↦
          Event.line?_eq_none (kind_ne_of_others others .instruction nofun nofun nofun e he)
      rw [log, announcement_of_traced traced]
      show [_] = _ :: es.filterMap Event.line?
      rw [lines]
    · exact Event.sum_ticks_eq_zero
        (List.forall_mem_cons.2 ⟨nofun, kind_ne_of_others others .timerTick nofun nofun nofun⟩)

/-- **The ticks after an attempt keep the books.** -/
theorem balanced_tick (m : Machine) (ticks : Int) (timers : Timers) :
    m.Balanced (m.tick ticks timers) (tickEvents ticks timers) [] 0 ticks := by
  have tracer := m.tracer_tick ticks timers
  have state := m.state_tick ticks timers
  have waiting : (m.tick ticks timers).state.waiting = m.state.waiting := by
    rw [state]
    exact State.waiting_of_mode_eq rfl
  rw [tickEvents] at tracer ⊢
  by_cases none : ticks = 0
  · rw [if_pos none] at tracer ⊢
    refine ⟨tracer, ?_, ?_, rfl, none.symm⟩
    · rw [state]
      simp
    · rw [waiting]
      simp
  · rw [if_neg none] at tracer ⊢
    refine ⟨tracer, ?_, ?_, rfl, ?_⟩
    · rw [state]
      simp [Event.kind]
    · rw [waiting]
      simp [Event.kind]
    · rw [List.map_singleton, List.sum_singleton, Event.ticks]

/-- Ticks are neither instructions nor faults. -/
theorem isSpoiled_append_tickEvents (es : List Event) (ticks : Int) (timers : Timers) :
    Event.isSpoiled (es ++ tickEvents ticks timers) = Event.isSpoiled es := by
  rw [tickEvents]
  split
  · rw [List.append_nil]
  · simp [Event.isSpoiled, Event.kind]

end Machine

/-! ### The ticks of steps -/

namespace Moment

theorem stepTicks_append (ms ns : List Moment) :
    stepTicks (ms ++ ns) = stepTicks ms + stepTicks ns := by
  induction ns using List.reverseRecOn with
  | nil =>
    rw [List.append_nil]
    exact (Int.add_zero _).symm
  | append_singleton ns n ih =>
    rw [← List.append_assoc, stepTicks_concat, stepTicks_concat, ih]
    rcases n with ⟨counter, value⟩ | ⟨now, ticks⟩ | ⟨ticks⟩
    · rfl
    · exact Int.add_assoc _ _ _
    · rfl

end Moment

namespace Machine

variable {m n l : Machine} {o : Observer} {es fs : List Event} {log log' : List LogEntry}
  {now : Int} {c : Command} {cs : List Command}

/-- What an instruction writes to the counters takes no ticks. -/
theorem stepTicks_writtenNext (m : Machine) : Moment.stepTicks m.writtenNext = 0 := by
  have written (w : Word) : Moment.stepTicks (m.writtenBy w) = 0 := by
    rw [writtenBy]
    split
    · rfl
    · rfl
    · rfl
  rw [writtenNext]
  split
  · rfl
  · split
    · rfl
    · exact written _

/-- **A step keeps the books**, with the ticks that it takes. -/
theorem exists_balanced_step (traced : m.setup.traceInstructions = true)
    (period : m.state.timers.period ≠ 0) (now : Int) :
    ∃ es, m.Balanced (m.step now).machine es (m.step now).log
      (if Event.isSpoiled es then 1 else 0) (Moment.stepTicks (m.moments (.step now))) := by
  obtain ⟨es, tracer, attempted⟩ := m.exists_attempted
  have balanced := attempted.balanced traced tracer
  have moments : Moment.stepTicks (m.moments (.step now)) = Moment.stepTicks (m.steppedAt now) := by
    rw [Machine.moments, Moment.stepTicks_append, stepTicks_writtenNext, Int.zero_add]
  rw [moments]
  rcases answer : m.attempt.answer with f | last
  · have step : m.step now = _ := Outcome.ticked_of_error answer
    rw [steppedAt, step]
    exact ⟨es, balanced⟩
  · obtain ⟨ticks, sampled⟩ := sample_attempt period now
    have step : m.step now = _ := Outcome.ticked_of_ok answer sampled
    have both := balanced.trans (balanced_tick m.attempt.machine ticks
      (m.attempt.machine.state.timers.passTo ticks))
    rw [List.append_nil, Int.add_zero] at both
    rw [steppedAt, step, sampled]
    refine ⟨es ++ tickEvents ticks (m.attempt.machine.state.timers.passTo ticks), ?_⟩
    rw [isSpoiled_append_tickEvents]
    exact both

end Machine

/-! ### Commands -/

namespace Command

/-- The commands of a session that executes in steps: nothing is executed or decays otherwise, and
there is no reset. -/
def isStepwise : Command → Bool
  | reset _ => false
  | loadProgram .. => false
  | executeNext => false
  | execute _ => false
  | advanceTimers _ => false
  | _ => true

end Command

namespace Machine

variable {m n l : Machine} {o : Observer} {es fs : List Event} {now : Int} {c : Command}
  {cs : List Command}

/-- A machine that traces instructions, reports to an observer that stays and has a positive
period. -/
structure Watched (m : Machine) (o : Observer) : Prop where
  keeps : m.tracer.Keeps o
  traced : m.setup.traceInstructions = true
  period_pos : 0 < m.state.timers.period

/-- A reset does not disturb the watch. -/
theorem Watched.reset (h : m.Watched o) (now : Int) : (m.reset now).machine.Watched o where
  keeps := by
    rw [tracer_reset]
    exact h.keeps
  traced := by
    rw [reset_eq]
    exact h.traced
  period_pos := by
    rw [reset_eq]
    exact h.period_pos

/-- Whatever a command reports, the machine is watched afterwards. -/
theorem Watched.perform (h : m.Watched o) (c : Command)
    (reported : (m.perform c).machine.tracer = m.tracer.report es) :
    (m.perform c).machine.Watched o where
  keeps := by
    rw [reported]
    exact h.keeps.report es
  traced := by
    rw [setup_perform]
    exact h.traced
  period_pos := by
    rw [period_perform h.period_pos.ne']
    exact h.period_pos

/-- An observer is told of a step how it went. -/
theorem Watched.tellsOfStep (h : m.Watched o) (now : Int) :
    m.TellsOfStep now (m.told o [.step now]) := by
  obtain ⟨es, reported, tells⟩ := exists_tellsOfStep h.period_pos.ne' now
  have told : m.told o [.step now] = es := told_eq h.keeps reported
  rw [told]
  exact tells

theorem balanced_edit {f : State → Except Fault State} (edit : c.edit? = some f) (m : Machine) :
    m.Balanced (m.perform c).machine [] (m.perform c).log 0 0 := by
  rcases edited : f m.state with e | t
  · rw [perform_of_edit_error edit edited]
    exact .of_silent rfl rfl rfl rfl
  · have executed := (Command.executed_random_of_edit edit edited).1
    have frame := Command.frame_of_edit edit edited
    rw [perform_of_edit_ok edit edited]
    exact .of_silent rfl executed frame.mode rfl

theorem balanced_load (m : Machine) (image : List Byte) :
    m.Balanced (m.load image).machine [] (m.load image).log 0 0 := by
  rcases loaded : m.state.memory.load image m.setup.origin with f | memory
  · rw [load_of_error loaded]
    exact .of_silent rfl rfl rfl rfl
  · rw [load_of_ok loaded]
    exact .of_silent rfl rfl rfl rfl

theorem balanced_loadValues (m : Machine) (values : List Int) :
    m.Balanced (m.loadValues values).machine [] (m.loadValues values).log 0 0 := by
  rcases m.loadValues_cases values with ⟨v, eq⟩ | ⟨image, eq⟩
  · rw [eq]
    exact .of_silent rfl rfl rfl rfl
  · rw [eq]
    exact m.balanced_load image

/-- A command that is no step reports nothing and accounts for nothing. -/
theorem balanced_other (m : Machine) (stepwise : c.isStepwise = true)
    (other : ∀ now, c ≠ .step now) :
    m.Balanced (m.perform c).machine [] (m.perform c).log 0 (Moment.stepTicks (m.moments c)) := by
  rcases edit : c.edit? with _ | f
  · cases c with
    | load values => exact m.balanced_loadValues values
    | step now => exact absurd rfl (other now)
    | reset now => cases stepwise
    | loadProgram values now => cases stepwise
    | executeNext => cases stepwise
    | execute word => cases stepwise
    | advanceTimers elapsed => cases stepwise
    | _ => cases edit
  · have none : Moment.stepTicks (m.moments c) = 0 := by
      cases c with
      | step now => cases edit
      | executeNext => cases edit
      | execute word => cases edit
      | advanceTimers elapsed => cases edit
      | _ => rfl
    rw [none]
    exact balanced_edit edit m

/-- **A command keeps the books.** -/
theorem exists_balanced_perform (h : m.Watched o) (stepwise : c.isStepwise = true) :
    ∃ es, m.Balanced (m.perform c).machine es (m.perform c).log
      (if Event.isSpoiled es then 1 else 0) (Moment.stepTicks (m.moments c)) := by
  by_cases step : ∃ now, c = .step now
  · obtain ⟨now, rfl⟩ := step
    exact exists_balanced_step h.traced h.period_pos.ne' now
  · exact ⟨[], m.balanced_other stepwise fun now same ↦ step ⟨now, same⟩⟩

/-! ### Sessions -/

/-- A command of a session, with the machine that it is given to and the events that an observer is
told. -/
structure Entry where
  before : Machine
  command : Command
  events : List Event

/-- The commands of a session with what an observer is told of each. -/
def journal (o : Observer) (m : Machine) : List Command → List Entry
  | [] => []
  | c :: cs => ⟨m, c, m.told o [c]⟩ :: (m.perform c).machine.journal o cs

/-- How many commands of a session told of an instruction and of a fault. -/
def spoiled (o : Observer) (m : Machine) (cs : List Command) : Int :=
  ((m.journal o cs).countP fun e ↦ Event.isSpoiled e.events : Nat)

/-- **A session keeps the books.** -/
theorem balanced_after (h : m.Watched o) (stepwise : ∀ c ∈ cs, c.isStepwise = true) :
    m.Balanced (m.after cs) ((m.journal o cs).flatMap Entry.events)
      ((m.run cs).flatMap Outcome.log) (m.spoiled o cs) (Moment.stepTicks (m.history cs)) := by
  induction cs generalizing m with
  | nil => exact .of_silent rfl rfl rfl rfl
  | cons c cs ih =>
    obtain ⟨es, first⟩ := exists_balanced_perform h (stepwise c List.mem_cons_self)
    have rest := ih (h.perform c first.tracer) fun d hd ↦ stepwise d (List.mem_cons_of_mem c hd)
    have told : m.told o [c] = es := told_eq h.keeps first.tracer
    have both := first.trans rest
    have spoiled : m.spoiled o (c :: cs) =
        (if Event.isSpoiled es then 1 else 0) + (m.perform c).machine.spoiled o cs := by
      rw [Machine.spoiled, journal, List.countP_cons, told, Machine.spoiled]
      push_cast
      exact Int.add_comm _ _
    rw [spoiled, journal, run, history, List.flatMap_cons, List.flatMap_cons, told,
      Moment.stepTicks_append]
    exact both

/-- What holds of a command that is given to a watched machine holds of every entry of a session. -/
theorem Watched.forall_journal (h : m.Watched o) (stepwise : ∀ c ∈ cs, c.isStepwise = true)
    {P : Entry → Prop}
    (entry : ∀ n c, n.Watched o → c.isStepwise = true → P ⟨n, c, n.told o [c]⟩) :
    ∀ e ∈ m.journal o cs, P e := by
  induction cs generalizing m with
  | nil =>
    intro e he
    cases he
  | cons c cs ih =>
    have first := stepwise c List.mem_cons_self
    obtain ⟨es, balanced⟩ := exists_balanced_perform h first
    have rest := ih (h.perform c balanced.tracer) fun d hd ↦ stepwise d (List.mem_cons_of_mem c hd)
    exact List.forall_mem_cons.2 ⟨entry m c h first, rest⟩

/-- The account of a session in which an observer was told of everything. -/
structure Account (o : Observer) (m : Machine) (cs : List Command) : Prop where
  /-- The events are those that were told of the commands, in order. -/
  events : m.told o cs = (m.journal o cs).flatMap Entry.events
  /-- An instruction is completed, unless it was refused after it was announced or waits. -/
  executed : ((m.after cs).state.executed : Int) =
    Event.count .instruction (m.told o cs) - m.spoiled o cs - Event.count .keyWait (m.told o cs) +
      Event.count .keyResume (m.told o cs)
  /-- There is one wait more than there are ends of waits exactly while the machine waits. -/
  waiting : Event.count .keyWait (m.told o cs) - Event.count .keyResume (m.told o cs) =
    (m.after cs).state.waiting
  /-- A step tells how it went. -/
  steps : ∀ e ∈ m.journal o cs, ∀ now, e.command = .step now → e.before.TellsOfStep now e.events
  /-- Nothing else is told of. -/
  others : ∀ e ∈ m.journal o cs, (∀ now, e.command ≠ .step now) → e.events = []
  /-- The trace lines of the log are those of the instructions, one for each and in order. -/
  lines : ((m.run cs).flatMap Outcome.log).filter LogEntry.isTrace =
    (m.told o cs).filterMap Event.line?
  /-- All ticks that the steps took are told. -/
  ticks : ((m.told o cs).map Event.ticks).sum = Moment.stepTicks (m.history cs)

/-- **The events of a session add up.** After a reset, let an observer stay registered with a
machine that traces instructions, through any session that executes in steps. Then what the
observer was told accounts for the instructions that were completed, for the wait if there is one,
for how each step went, for the trace lines of the log and for the ticks. -/
theorem account_of_session (keeps : m.tracer.Keeps o) (traced : m.setup.traceInstructions = true)
    (period_pos : 0 < m.state.timers.period) (now : Int)
    (stepwise : ∀ c ∈ cs, c.isStepwise = true) : Account o (m.reset now).machine cs := by
  have watched : (m.reset now).machine.Watched o := Watched.reset ⟨keeps, traced, period_pos⟩ now
  have executed : (m.reset now).machine.state.executed = 0 := by
    rw [reset_eq]
    rfl
  have waiting : (m.reset now).machine.state.waiting = 0 :=
    State.waiting_of_running (by rw [reset_eq]; rfl)
  have books := balanced_after watched stepwise
  have told := told_eq watched.keeps books.tracer
  refine ⟨told, ?_, ?_, ?_, ?_, ?_, ?_⟩
  · rw [told, books.executed, executed]
    exact Int.zero_add _
  · rw [told, books.waiting, waiting]
    exact (Int.zero_add _).symm
  · refine watched.forall_journal stepwise fun n c h _ now step ↦ ?_
    cases step
    exact h.tellsOfStep now
  · refine watched.forall_journal stepwise fun n c h stepwise other ↦ ?_
    exact told_eq h.keeps (n.balanced_other stepwise other).tracer
  · rw [told]
    exact books.lines
  · rw [told]
    exact books.ticks

/-- A machine that traces instructions, with an observer. -/
def tracing : Machine :=
  let m := standard 0x200
  register { m with setup := { m.setup with traceInstructions := true } } .recorder

/-- A session that sets the delay counter and waits for a key until one is pressed; then a return is
refused, and then a word that cannot be fetched. -/
def bookSession : List Command :=
  [.writeMemory 0x200 [0x60, 0x05, 0xF0, 0x15, 0xF1, 0x0A, 0x00, 0xEE], .step 20, .step 40,
    .step 60, .step 80, .keyDown 3, .step 100, .step 120, .setPc 0xFFF, .step 140]

/-- In that session three instructions are completed, of which one waited; another one is announced
and refused. -/
theorem account_of_bookSession :
    Account .recorder (tracing.reset 0).machine bookSession ∧
    ((tracing.reset 0).machine.told .recorder bookSession).map Event.kind =
      [.instruction, .timerTick, .instruction, .timerTick, .instruction, .keyWait, .timerTick,
        .timerTick, .keyResume, .timerTick, .instruction, .fault, .fault] ∧
    ((tracing.reset 0).machine.after bookSession).state.executed = 3 ∧
    (tracing.reset 0).machine.spoiled .recorder bookSession = 1 := by
  refine ⟨account_of_session ⟨rfl, by decide +kernel⟩ rfl (by decide +kernel) 0 (by decide), ?_, ?_,
    ?_⟩
  · decide +kernel
  · decide +kernel
  · decide +kernel

end Machine

end Chip8
