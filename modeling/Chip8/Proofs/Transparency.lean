import Chip8.Proofs.Edit
import Chip8.Proofs.Step
import Mathlib.Data.List.Forall2

/-!
# Observers and trace lines are transparent

A machine reports to observers and, if it was set up for it, writes a line to the log for every
instruction. `Machine.quiet` is the machine without either. Every command does the same to it:
performing a command and then taking observers and trace lines away is taking them away first
(`Machine.perform_quiet`), so a whole session is the same session without them
(`Machine.run_quiet`). What is lost on the way is what observers were told and the trace lines,
and no other line of the log.

An action sees the observers, and it goes one way if there are any and another if there are none
(`Action.report`). So that it does the same either way is proved of every action that a machine runs
(`Action.Transparent`): of the simple ones, of one after another, and from that of the microcode of
each instruction (`Instr.transparent_microcode`), of a poll for a key
(`Action.transparent_retryKey`) and of loading a program. The other guards stand in
`Machine.execute`, in `Machine.attempt` on the path of a fault, and in `Machine.tick`; they are
`Machine.notify_quiet`.

The main result is `Machine.run_traced`, which says this of two machines that are switched on alike.
-/

namespace Chip8

/-- Whether a line of the log is written for tracing alone. -/
def LogEntry.isTrace : LogEntry → Bool
  | instruction .. => true
  | _ => false

/-- A log without its trace lines. -/
def withoutTrace (log : List LogEntry) : List LogEntry := log.filter fun l ↦ !l.isTrace

theorem withoutTrace_append (log log' : List LogEntry) :
    withoutTrace (log ++ log') = withoutTrace log ++ withoutTrace log' :=
  List.filter_append ..

/-! ### Actions that do the same unobserved -/

/-- What an action works on, without observers and without trace lines. -/
def Activity.quiet (p : Activity) : Activity := ⟨p.state, .empty, withoutTrace p.log⟩

namespace Action

variable {α β : Type}

/-- What an action has come to, without observers and without trace lines. -/
def quietly : EStateM.Result Fault Activity α → EStateM.Result Fault Activity α
  | .ok v p => .ok v p.quiet
  | .error f p => .error f p.quiet

/-- An action does the same with nobody to observe it and nothing to trace: it ends the same way,
and leaves the same state and the same other lines. -/
def Transparent (a : Action α) : Prop := ∀ p : Activity, a.run p.quiet = quietly (a.run p)

namespace Transparent

theorem pure (v : α) : Transparent (return v) := fun _ ↦ rfl

theorem throw (f : Fault) : Transparent (throw f : Action α) := fun _ ↦ rfl

/-- **One after another.** The second action may depend on what the first one answered. -/
theorem bind {a : Action α} {b : α → Action β} (first : a.Transparent)
    (second : ∀ v, (b v).Transparent) : (a >>= b).Transparent := by
  intro p
  rw [EStateM.run_bind, EStateM.run_bind, first p]
  cases a.run p with
  | ok v q => exact second v q
  | error f q => rfl

end Transparent

theorem transparent_state : state.Transparent := fun _ ↦ rfl

theorem transparent_change (f : State → State) : (change f).Transparent := fun _ ↦ rfl

theorem transparent_check (r : Except Fault α) : Transparent (Access.check r) := by
  cases r with
  | ok v => exact .pure v
  | error f => exact .throw f

/-- An access to a part does not see the observers. -/
theorem transparent_within {σ : Type} (part : State → σ) (put : σ → State → State)
    (x : Access Fault σ α) : (within part put x).Transparent := by
  intro p
  have state : p.quiet.state = p.state := rfl
  rw [run_within_eq, run_within_eq, state]
  cases x.run (part p.state) with
  | ok v t => rfl
  | error f t => rfl

/-- A line that is not for tracing is written either way. -/
theorem transparent_note {entry : LogEntry} (kept : entry.isTrace = false) :
    (note entry).Transparent := by
  intro p
  have line : withoutTrace [entry] = [entry] := by
    rw [withoutTrace, List.filter_singleton, kept]
    rfl
  rw [run_note, run_note, quietly, Activity.quiet, Activity.quiet, withoutTrace_append, line]

/-- **Reporting is transparent.** With nobody registered it is left out; with somebody it reaches
them and nothing else. -/
theorem transparent_report (event : Event) : (report event).Transparent := by
  intro p
  simp only [report, EStateM.run_bind, EStateM.run_get]
  rcases p.tracer.hasObservers with _ | _
  · rfl
  · rfl

/-! ### The pieces of an instruction -/

theorem transparent_advance : advance.Transparent := transparent_change _

theorem transparent_readBytes (address count : Int) : (readBytes address count).Transparent :=
  transparent_state.bind fun _ ↦ transparent_check _

theorem transparent_writeBytes (address : Int) (bytes : List Byte) :
    (writeBytes address bytes).Transparent := by
  rw [writeBytes, onMemory]
  exact transparent_within _ _ _

theorem transparent_load (image : List Byte) (origin : Int) : (load image origin).Transparent :=
  (transparent_within _ _ _).bind fun _ ↦ transparent_note rfl

theorem transparent_putV (i : Nat) (bytes : List Byte) : (putV i bytes).Transparent := by
  induction bytes generalizing i with
  | nil => exact .pure ()
  | cons b bs ih =>
    rw [putV]
    split
    · exact (transparent_change _).bind fun _ ↦ ih (i + 1)
    · exact ih (i + 1)

theorem transparent_push (address pc : Int) : (push address pc).Transparent := by
  rw [push, onStack]
  exact transparent_within _ _ _

theorem transparent_pop (pc : Int) : (pop pc).Transparent := by
  rw [pop, onStack]
  exact transparent_within _ _ _

theorem transparent_drawByte : drawByte.Transparent :=
  transparent_state.bind fun _ ↦ (transparent_change _).bind fun _ ↦ .pure _

theorem transparent_flip (x y : Int) : (flip x y).Transparent := by
  rw [flip, onScreen]
  exact transparent_within _ _ _

theorem transparent_flipRow (left top : Nat) (row : Byte) (cs : List Nat) (erased : Bool) :
    (flipRow left top row cs erased).Transparent := by
  induction cs generalizing erased with
  | nil => exact .pure erased
  | cons c cs ih =>
    rw [flipRow]
    split
    · exact (transparent_flip _ _).bind fun lit ↦ ih _
    · exact ih erased

theorem transparent_flipRows (left top : Nat) (rows : List Byte) (erased : Bool) :
    (flipRows left top rows erased).Transparent := by
  induction rows generalizing top erased with
  | nil => exact .pure erased
  | cons row rows ih =>
    exact (transparent_flipRow left top row _ erased).bind fun erased ↦ ih (top + 1) erased

theorem transparent_finish (x : RegIndex) (result : Byte) (flag : Option Bool) :
    (finish x result flag).Transparent := by
  have written := (transparent_change (·.setV x result)).bind fun _ ↦ transparent_advance
  cases flag with
  | none => exact written
  | some flag => exact (transparent_change _).bind fun _ ↦ written

theorem transparent_ret : ret.Transparent :=
  transparent_state.bind fun _ ↦ (transparent_pop _).bind fun _ ↦
    (transparent_change _).bind fun _ ↦ transparent_state.bind fun _ ↦ transparent_report _

theorem transparent_call (target : Target) : (call target).Transparent :=
  transparent_state.bind fun _ ↦ (transparent_push _ _).bind fun _ ↦
    (transparent_change _).bind fun _ ↦ transparent_state.bind fun _ ↦ transparent_report _

theorem transparent_skipKey (down : Bool) (x : RegIndex) : (skipKey down x).Transparent := by
  refine transparent_state.bind fun s ↦ (transparent_check _).bind fun isDown ↦ ?_
  split
  · exact transparent_advance.bind fun _ ↦ transparent_advance
  · exact transparent_advance

theorem transparent_draw (x y : RegIndex) (rows : Nat) : (draw x y rows).Transparent := by
  refine transparent_state.bind fun s ↦ (transparent_readBytes _ _).bind fun sprite ↦
    (transparent_change _).bind fun _ ↦ (transparent_flipRows _ _ _ _).bind fun erased ↦ ?_
  have told := (transparent_change fun s ↦ { s with screen := s.screen.markDirty }).bind fun _ ↦
    transparent_state.bind fun t ↦
      (transparent_report (.draw t.pc.toNat (s.v x).toNat (s.v y).toNat rows erased)).bind fun _ ↦
        transparent_advance
  split
  · exact (transparent_change _).bind fun _ ↦ told
  · exact told

/-- The line and the event of a wait that begins: the line is written whether or not the event is
reported. -/
theorem transparent_takeKey (x : RegIndex) (key : Option (Fin 16)) :
    (takeKey x key).Transparent := by
  cases key with
  | some key => exact (transparent_change _).bind fun _ ↦ transparent_advance
  | none =>
    exact (transparent_change _).bind fun _ ↦ (transparent_change _).bind fun _ ↦
      transparent_state.bind fun _ ↦ (transparent_note rfl).bind fun _ ↦ transparent_report _

theorem transparent_awaitKey (x : RegIndex) : (awaitKey x).Transparent :=
  transparent_state.bind fun _ ↦ transparent_takeKey x _

theorem transparent_endWait (key : Option (Fin 16)) (register : Option RegIndex) :
    (endWait key register).Transparent := by
  cases key with
  | none => exact .pure false
  | some key =>
    cases register with
    | none => exact .pure false
    | some x =>
      exact (transparent_change _).bind fun _ ↦ (transparent_change _).bind fun _ ↦
        (transparent_change _).bind fun _ ↦ (transparent_note rfl).bind fun _ ↦
          transparent_state.bind fun _ ↦ (transparent_report _).bind fun _ ↦
            transparent_advance.bind fun _ ↦ .pure true

theorem transparent_pollKey : pollKey.Transparent :=
  transparent_state.bind fun _ ↦ transparent_endWait _ _

theorem transparent_retryKey : retryKey.Transparent := by
  refine transparent_pollKey.bind fun ended ↦ ?_
  split
  · exact transparent_change _
  · exact .pure ()

theorem transparent_addIndex (x : RegIndex) : (addIndex x).Transparent :=
  transparent_state.bind fun _ ↦ (transparent_change _).bind fun _ ↦
    (transparent_change _).bind fun _ ↦ transparent_advance

end Action

open Chip8.Action in
/-- **The microcode of every instruction is transparent.** -/
theorem Instr.transparent_microcode (i : Instr) : i.microcode.Transparent := by
  have changed (f : State → State) : (do change f; advance).Transparent :=
    (transparent_change f).bind fun _ ↦ transparent_advance
  cases i with
  | ret => exact transparent_ret
  | call target => exact transparent_call target
  | jump target | skipByte equal x nn | skipReg equal x y | jumpOffset target =>
    rw [microcode]
    exact transparent_change _
  | skipKey down x => exact transparent_skipKey down x
  | alu op x y => exact transparent_state.bind fun s ↦ transparent_finish x _ _
  | random x nn => exact transparent_drawByte.bind fun b ↦ changed _
  | draw x y rows => exact transparent_draw x y rows
  | awaitKey x => exact transparent_awaitKey x
  | addIndex x => exact transparent_addIndex x
  | digits x | store x =>
    exact transparent_state.bind fun s ↦ (transparent_writeBytes _ _).bind fun _ ↦
      transparent_advance
  | fetch x =>
    exact transparent_state.bind fun s ↦ (transparent_readBytes _ _).bind fun bytes ↦
      (transparent_putV 0 bytes).bind fun _ ↦ transparent_advance
  | clear | loadByte x nn | addByte x nn | loadIndex target | readDelay x | setDelay x | setSound x
  | glyph x => exact changed _

/-! ### Machines without observers -/

/-- The machine without observers and without trace lines. -/
def Machine.quiet (m : Machine) : Machine :=
  { m with setup := { m.setup with traceInstructions := false }, tracer := .empty }

/-- The outcome without observers and without trace lines. -/
def Outcome.quiet {ε α : Type} (o : Outcome ε α) : Outcome ε α :=
  ⟨o.machine.quiet, o.answer, withoutTrace o.log⟩

namespace Machine

variable {m : Machine}

@[simp] theorem state_quiet (m : Machine) : m.quiet.state = m.state := rfl

/-- Reporting is left out by a machine without observers, and is not seen of another. -/
theorem notify_quiet (m : Machine) (e : Event) : m.quiet.notify e = (m.notify e).quiet := by
  rw [notify, notify]
  rcases m.tracer.hasObservers with _ | _
  · rfl
  · rfl

/-- **A transparent action does to a quiet machine what is left of what it does.** -/
theorem act_quiet {α : Type} {a : Action α} (transparent : a.Transparent) (m : Machine) :
    m.quiet.act a = (m.act a).quiet := by
  have run : a.run ⟨m.quiet.state, m.quiet.tracer, []⟩ = _ := transparent ⟨m.state, m.tracer, []⟩
  rw [act, act, run]
  cases a.run ⟨m.state, m.tracer, []⟩ with
  | ok v p => rfl
  | error f p => rfl

/-! ### Executing -/

/-- The line that announces an instruction is a trace line. -/
theorem withoutTrace_announcement (m : Machine) (w : Word) (i : Instr) :
    withoutTrace (m.announcement w i) = [] := by
  rw [announcement]
  split
  · rfl
  · rfl

theorem transparent_counted (i : Instr) : (counted i).Transparent :=
  i.transparent_microcode.bind fun _ ↦ Action.transparent_change _

theorem execute_quiet (m : Machine) (w : Word) : m.quiet.execute w = (m.execute w).quiet := by
  cases decodes : decode w with
  | none =>
    rw [execute_of_decode_eq_none decodes, execute_of_decode_eq_none decodes]
    rfl
  | some i =>
    let event : Event := .instruction m.state.pc.toNat w.toNat i.text
    have announced : m.quiet.announce w i = (m.announce w i).quiet := by
      rw [announce, announce, ← notify_eq_emit, ← notify_eq_emit]
      exact notify_quiet { m with last := some w } event
    have acted := act_quiet (transparent_counted i) (m.announce w i)
    have silent : m.quiet.announcement w i = [] := rfl
    -- Of the first log the line in front goes; what the instruction wrote itself stays.
    rw [execute_of_decode decodes, execute_of_decode decodes, announced, acted, silent,
      Outcome.quiet, Outcome.quiet, withoutTrace_append, withoutTrace_announcement]

theorem executeNext_quiet (m : Machine) : m.quiet.executeNext = m.executeNext.quiet := by
  rw [executeNext, executeNext, state_quiet]
  rcases m.state.mode with _ | _
  · rcases m.state.memory.readWord m.state.pc.toNat with f | w
    · rfl
    · exact congrArg (Outcome.map some) (m.execute_quiet w)
  · exact congrArg (Outcome.map fun _ ↦ m.last) (act_quiet Action.transparent_retryKey m)

theorem attempt_quiet (m : Machine) : m.quiet.attempt = m.attempt.quiet := by
  rw [attempt, attempt, executeNext_quiet]
  rcases answer : m.executeNext.answer with f | last
  · have same : m.executeNext.quiet.answer = .error f := answer
    simp only [same]
    rw [Outcome.quiet, Outcome.quiet, withoutTrace_append]
    exact congrArg (Outcome.mk · _ _) (notify_quiet m.executeNext.machine _)
  · have same : m.executeNext.quiet.answer = .ok last := answer
    simp only [same]

theorem tick_quiet (m : Machine) (ticks : Int) (timers : Timers) :
    m.quiet.tick ticks timers = (m.tick ticks timers).quiet := by
  rw [tick, tick]
  split
  · rfl
  · exact notify_quiet (m.withState { m.state with timers }) _

theorem ticked_quiet (o : Outcome Fault (Option Word)) (now : Int) :
    o.quiet.ticked now = (o.ticked now).quiet := by
  cases answer : o.answer with
  | error f =>
    rw [Outcome.ticked_of_error answer, Outcome.ticked_of_error (o := o.quiet) answer]
    rfl
  | ok last =>
    cases sampled : o.machine.state.timers.sample now with
    | error e =>
      rw [Outcome.ticked_of_timer_error answer sampled,
        Outcome.ticked_of_timer_error (o := o.quiet) answer sampled]
      rfl
    | ok result =>
      rw [Outcome.ticked_of_ok answer sampled, Outcome.ticked_of_ok (o := o.quiet) answer sampled]
      exact congrArg (Outcome.mk · _ _) (tick_quiet o.machine result.1 result.2)

theorem step_quiet (m : Machine) (now : Int) : m.quiet.step now = (m.step now).quiet := by
  rw [step_eq_ticked, step_eq_ticked, attempt_quiet, ticked_quiet]

theorem advanceTimers_quiet (m : Machine) (elapsed : Number) :
    m.quiet.advanceTimers elapsed = (m.advanceTimers elapsed).quiet := by
  rw [advanceTimers, advanceTimers, state_quiet]
  cases m.state.timers.advance elapsed with
  | error e => rfl
  | ok result => exact congrArg (Outcome.mk · _ _) (tick_quiet m result.1 result.2)

/-! ### Starting, loading and changing from outside -/

theorem reset_quiet (m : Machine) (now : Int) : m.quiet.reset now = (m.reset now).quiet := rfl

theorem loadValues_quiet (m : Machine) (values : List Int) :
    m.quiet.loadValues values = (m.loadValues values).quiet := by
  rw [loadValues, loadValues]
  cases Memory.stray? values with
  | some v => rfl
  | none =>
    exact congrArg (Outcome.mapError Refusal.fault) (act_quiet (Action.transparent_load _ _) m)

theorem loadProgramValues_quiet (m : Machine) (values : List Int) (now : Int) :
    m.quiet.loadProgramValues values now = (m.loadProgramValues values now).quiet := by
  have loaded := (m.reset now).machine.loadValues_quiet values
  simp only [loadProgramValues, reset_quiet]
  rw [Outcome.quiet, Outcome.quiet, withoutTrace_append, loaded]
  rfl

theorem update_quiet (m : Machine) (f : State → Except Fault State) :
    m.quiet.update f = (m.update f).quiet := by
  rw [update, update, state_quiet]
  cases f m.state with
  | error e => rfl
  | ok s => rfl

/-! ### Sessions -/

/-- **A command does to a quiet machine what is left of what it does.** -/
theorem perform_quiet (m : Machine) (c : Command) : m.quiet.perform c = (m.perform c).quiet := by
  cases edit : c.edit? with
  | some f =>
    rw [perform_of_edit edit, perform_of_edit edit, update_quiet]
    rfl
  | none =>
    cases c with
    | reset now => rfl
    | load values =>
      rw [perform, perform, loadValues_quiet]
      rfl
    | loadProgram values now =>
      rw [perform, perform, loadProgramValues_quiet]
      rfl
    | step now =>
      rw [perform, perform, step_quiet]
      rfl
    | executeNext =>
      rw [perform, perform, executeNext_quiet]
      rfl
    | execute word =>
      rw [perform, perform, execute_quiet]
      rfl
    | advanceTimers elapsed =>
      rw [perform, perform, advanceTimers_quiet]
      rfl
    | _ => cases edit

/-- **A session on a quiet machine is what is left of the session.** -/
theorem run_quiet (m : Machine) (cs : List Command) :
    m.quiet.run cs = (m.run cs).map Outcome.quiet := by
  induction cs generalizing m with
  | nil => rfl
  | cons c cs ih =>
    have tail := ih (m.perform c).machine
    rw [run, run, List.map_cons, perform_quiet]
    exact congrArg (_ :: ·) tail

end Machine

/-- Outcomes that a host without observers cannot tell apart, but for the trace lines that the
first one may have written. -/
structure Outcome.SameButTrace {ε α : Type} (o p : Outcome ε α) : Prop where
  answer : p.answer = o.answer
  state : p.machine.state = o.machine.state
  last : p.machine.last = o.machine.last
  log : p.log = withoutTrace o.log

/-- **Tracing changes nothing but the trace.** Of two machines that are switched on alike, let one
trace instructions and have any observers, and the other neither: whatever is done to both, every
command answers the same and leaves the same. -/
theorem Machine.run_traced (setup : Setup) (random : RandomSource) (now : Int)
    (tracer : Tracer Event) (cs : List Command) :
    List.Forall₂ Outcome.SameButTrace
      (Machine.run { (powerOn { setup with traceInstructions := true } random now).machine with
        tracer } cs)
      (Machine.run (powerOn { setup with traceInstructions := false } random now).machine cs) := by
  -- The second machine is the first one without its observers and its trace lines.
  have quiet := run_quiet
    { (powerOn { setup with traceInstructions := true } random now).machine with tracer } cs
  have silent : (powerOn { setup with traceInstructions := false } random now).machine =
      Machine.quiet { (powerOn { setup with traceInstructions := true } random now).machine with
        tracer } := rfl
  rw [silent, quiet, List.forall₂_map_right_iff]
  exact List.forall₂_same.2 fun o _ ↦ ⟨rfl, rfl, rfl, rfl⟩

end Chip8
