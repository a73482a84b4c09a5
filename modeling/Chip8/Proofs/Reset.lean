import Chip8.Proofs.CallReturn
import Chip8.Proofs.Clock
import Chip8.Proofs.Reach
import Chip8.Proofs.Transparency

/-!
# A reset erases what came before

A reset puts each part of a machine back by itself. What it does not put back is the setup, the
period of the timers, the source of random bytes and the observers. Of these a host's commands
leave the setup alone (`Machine.setup_perform`), and with it the period, which always is the one of
the setup (`Machine.Reachable.period_eq`). So what a machine was before a reset shows in its random
bytes and to its observers, and nowhere else: the state is the one of a machine that was just
switched on (`Machine.state_reset_eq_powerOn`).

Observers change nothing (`Machine.run_quiet`), so two machines with the same setup and the same
random bytes that are reset alike cannot be told apart afterwards, whatever happened to them before
and whatever is done to both (`Machine.sameToHost_run_of_resets`). Nothing is compared command by
command here: without their observers the two are the same machine from the reset on.
-/

namespace Chip8

namespace Machine

variable {m n : Machine} {c : Command}

/-! ### What commands leave alone -/

/-- The setup stays whatever is loaded. -/
theorem setup_load (m : Machine) (image : List Byte) : (m.load image).machine.setup = m.setup := by
  rcases loaded : m.state.memory.load image m.setup.origin with f | memory
  · rw [load_of_error loaded]
  · rw [load_of_ok loaded]
    rfl

theorem setup_loadValues (m : Machine) (values : List Int) :
    (m.loadValues values).machine.setup = m.setup := by
  rcases m.loadValues_cases values with ⟨v, eq⟩ | ⟨image, eq⟩
  · rw [eq]
  · rw [eq]
    exact setup_load m image

/-- **No command changes the setup.** -/
theorem setup_perform (m : Machine) (c : Command) : (m.perform c).machine.setup = m.setup := by
  rcases edit : c.edit? with _ | f
  · cases c with
    | reset now =>
      show (m.reset now).machine.setup = m.setup
      rw [reset_eq]
    | load values => exact setup_loadValues m values
    | loadProgram values now =>
      show ((m.reset now).machine.loadValues values).machine.setup = m.setup
      rw [setup_loadValues, reset_eq]
    | step now => exact m.setup_step now
    | executeNext => exact m.setup_executeNext
    | execute word => exact m.setup_execute (Word.ofInt word)
    | advanceTimers elapsed =>
      show (m.advanceTimers elapsed).machine.setup = m.setup
      rcases passed : m.state.timers.advance elapsed with e | ⟨ticks, timers⟩
      · rw [advanceTimers, passed]
      · rw [advanceTimers, passed, setup_tick]
    | _ => cases edit
  · rcases edited : f m.state with e | t
    · rw [perform_of_edit_error edit edited]
    · rw [perform_of_edit_ok edit edited]
      rfl

/-- **The period of the timers is the one of the setup**, through every session. -/
theorem Reachable.period_eq (h : m.Reachable) : m.state.timers.period = m.setup.period := by
  induction h with
  | powerOn setup random now => rfl
  | perform h c ih =>
    have nonzero := h.inRange.period_pos.ne'
    rw [period_perform nonzero, setup_perform, ih]
  | observe h tracer ih => exact ih

/-! ### The state after a reset -/

/-- **A reset leaves the state of a machine that was just switched on**, but for the random bytes
that are still to come. -/
theorem state_reset_eq_powerOn (h : m.Reachable) (fresh : RandomSource) (now : Int) :
    (m.reset now).machine.state =
      { (powerOn m.setup fresh now).machine.state with random := m.state.random } := by
  have timers : m.state.timers.reset now = ⟨m.setup.period, 0, 0, now⟩ := by
    rw [Timers.reset, Timers.clear, h.period_eq]
  rw [reset_eq, State.reset, timers]
  rfl

/-- Without their observers, two machines that were reset alike are the same machine. -/
theorem quiet_reset_eq (hm : m.Reachable) (hn : n.Reachable) (setup : n.setup = m.setup)
    (random : n.state.random = m.state.random) (now : Int) :
    (n.reset now).quiet = (m.reset now).quiet := by
  have states : n.state.reset n.setup.origin now = m.state.reset m.setup.origin now := by
    have left := state_reset_eq_powerOn hn m.state.random now
    have right := state_reset_eq_powerOn hm m.state.random now
    rw [setup, random] at left
    exact left.trans right.symm
  rw [reset_eq, reset_eq, states]
  simp only [Outcome.quiet, quiet, setup]

/-- So they are if a program was loaded into both, or was refused by both. -/
theorem perform_quiet_eq_of_resets (hm : m.Reachable) (hn : n.Reachable) (setup : n.setup = m.setup)
    (random : n.state.random = m.state.random) (resets : c.resets = true) :
    n.quiet.perform c = m.quiet.perform c := by
  have same (now : Int) : n.quiet.reset now = m.quiet.reset now := by
    rw [reset_quiet, reset_quiet, quiet_reset_eq hm hn setup random]
  cases c with
  | reset now => rw [perform, perform, same]
  | loadProgram values now =>
    -- Loading starts from the machine that the reset leaves, and looks at nothing before it.
    rw [perform, perform, loadProgramValues, loadProgramValues, same]
  | _ => cases resets

end Machine

/-- Outcomes that a host cannot tell apart, but for the trace lines of the log. The states agree in
every part, so all that a host can read off the machine agrees: the snapshot, the flag of the
screen, the slots of the stack that were popped. -/
structure Outcome.SameToHost {ε α : Type} (o p : Outcome ε α) : Prop where
  answer : p.answer = o.answer
  state : p.machine.state = o.machine.state
  last : p.machine.last = o.machine.last
  log : withoutTrace p.log = withoutTrace o.log

/-- Outcomes that are the same without observers are the same to a host. -/
theorem Outcome.SameToHost.of_quiet_eq {ε α : Type} {o p : Outcome ε α} (h : o.quiet = p.quiet) :
    o.SameToHost p where
  answer := by
    show p.quiet.answer = o.quiet.answer
    rw [h]
  state := by
    show p.quiet.machine.state = o.quiet.machine.state
    rw [h]
  last := by
    show p.quiet.machine.last = o.quiet.machine.last
    rw [h]
  log := by
    show p.quiet.log = o.quiet.log
    rw [h]

namespace Machine

variable {m n : Machine} {c : Command}

/-- **A reset erases all history.** Take two machines with the same setup and the same random bytes
to come, whatever happened to them. If both are reset, or a program is loaded into both, at the same
clock reading, then every later session gives command by command what it gives on the other machine.
And the state right after the reset is the one of a machine that was just switched on, but for the
random bytes. -/
theorem sameToHost_run_of_resets (hm : m.Reachable) (hn : n.Reachable) (setup : n.setup = m.setup)
    (random : n.state.random = m.state.random) (resets : c.resets = true) (cs : List Command) :
    List.Forall₂ Outcome.SameToHost (m.run (c :: cs)) (n.run (c :: cs)) ∧
      ∀ fresh now,
        (m.reset now).machine.state =
          { (powerOn m.setup fresh now).machine.state with random := m.state.random } ∧
        (m.reset now).machine.last = (powerOn m.setup fresh now).machine.last := by
  refine ⟨?_, fun fresh now ↦ ⟨state_reset_eq_powerOn hm fresh now, rfl⟩⟩
  have runs : m.quiet.run (c :: cs) = n.quiet.run (c :: cs) := by
    rw [run, run, perform_quiet_eq_of_resets hm hn setup random resets]
  rw [run_quiet, run_quiet] at runs
  have pairs : List.Forall₂ Eq ((m.run (c :: cs)).map Outcome.quiet)
      ((n.run (c :: cs)).map Outcome.quiet) := by
    rw [List.forall₂_eq_eq_eq]
    exact runs
  rw [List.forall₂_map_left_iff, List.forall₂_map_right_iff] at pairs
  exact pairs.imp fun o p ↦ Outcome.SameToHost.of_quiet_eq

/-- Seventeen calls, of which the last is refused because the stack is full. -/
def deepSession : List Command := List.replicate 17 (.execute 0x2300)

/-- A session that draws, writes to memory, sets a counter, is given a word that is no instruction,
and then waits for a key. -/
def waitingSession : List Command :=
  [.setPixel 3 4 true, .writeMemory 0x900 [1, 2, 3], .setDelay 9, .execute 0x00A0, .setPc 0x400,
    .execute 0xF70A]

/-- A program loaded after either session runs the same: it waits for a key, which is pressed, and
then returns, which is refused. -/
theorem sameToHost_after_sessions :
    ((standard 0x200).after deepSession).state.stack.isFull = true ∧
    ((standard 0x200).after waitingSession).state.waitRegister = some 7 ∧
    List.Forall₂ Outcome.SameToHost
      (((standard 0x200).after deepSession).run
        [.loadProgram [0xF1, 0x0A, 0x00, 0xEE] 50, .step 60, .keyDown 8, .step 90, .step 130])
      (((standard 0x200).after waitingSession).run
        [.loadProgram [0xF1, 0x0A, 0x00, 0xEE] 50, .step 60, .keyDown 8, .step 90, .step 130]) := by
  refine ⟨by decide +kernel, by decide +kernel, ?_⟩
  have start := reachable_standard 0x200
  exact (sameToHost_run_of_resets (start.after deepSession) (start.after waitingSession)
    (by decide +kernel) (by decide +kernel) rfl _).1

end Machine

end Chip8
