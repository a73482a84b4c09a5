import Chip8.Proofs.Reach

/-!
# The mode and its register

The mode and the register that a key goes to are two parts of a state. Nothing keeps a host that
builds a state by hand from setting one without the other, and then a machine can wait for ever. The
machine itself never does: it sets both where a wait starts and clears both where it ends
(`State.Paired`). What is executed keeps the two paired (`State.Goes.paired`), no command from
outside touches either of them, and a reset clears both (`Machine.paired_perform`). So the two are
paired in every machine that a host can come to (`Machine.Reachable.paired`).
-/

namespace Chip8

/-- A register is kept in mind exactly during a wait. -/
def State.Paired (s : State) : Prop := s.waitRegister.isSome = true ↔ s.mode = .waitingForKey

/-- Instructions other than the one for a key leave the mode and its register alone. -/
theorem State.mode_of_exec {s : State} {i : Instr} {e : Effect} (other : ∀ x, i ≠ .awaitKey x)
    (h : s.exec i = .ok e) : e.state.mode = s.mode ∧ e.state.waitRegister = s.waitRegister := by
  have keeps : i.writes .mode = false := by
    cases i with
    | awaitKey x => exact absurd rfl (other x)
    | _ => rfl
  have frame := State.frame_of_exec h
  exact ⟨frame.mode keeps, frame.waitRegister keeps⟩

namespace State.Paired

variable {s t : State}

/-- A running machine keeps no register in mind. -/
theorem register_eq_none (h : s.Paired) (mode : s.mode = .running) : s.waitRegister = none := by
  rw [← Option.not_isSome_iff_eq_none]
  intro register
  rw [h.1 register] at mode
  cases mode

/-- A machine that waits knows where the key goes. -/
theorem exists_register (h : s.Paired) (mode : s.mode = .waitingForKey) :
    ∃ x, s.waitRegister = some x :=
  Option.isSome_iff_exists.1 (h.2 mode)

theorem of_running (mode : s.mode = .running) (register : s.waitRegister = none) : s.Paired := by
  rw [Paired, mode, register]
  exact ⟨nofun, nofun⟩

/-- What changes neither of the two keeps them paired. -/
theorem of_eq (h : s.Paired) (mode : t.mode = s.mode) (register : t.waitRegister = s.waitRegister) :
    t.Paired := by
  rw [Paired, mode, register]
  exact h

/-- **An instruction keeps the two paired.** -/
theorem exec (h : s.Paired) {i : Instr} {e : Effect} (executed : s.exec i = .ok e) :
    e.state.Paired := by
  by_cases key : ∃ x, i = .awaitKey x
  · obtain ⟨x, rfl⟩ := key
    cases executed
    rw [awaitKey]
    cases s.keypad.highest? with
    | some key => exact h.of_eq rfl rfl
    | none => exact ⟨fun _ ↦ rfl, fun _ ↦ rfl⟩
  · obtain ⟨mode, register⟩ := mode_of_exec (fun x hx ↦ key ⟨x, hx⟩) executed
    exact h.of_eq mode register

end State.Paired

/-- **Whatever is executed keeps the two paired.** -/
theorem State.Goes.paired {s t : State} (h : s.Goes t) (before : s.Paired) : t.Paired := by
  cases h with
  | stays => exact before
  | resumes mode register down => exact .of_running rfl rfl
  | executes exec => exact (before.exec exec).of_eq (mode_tally _) (waitRegister_tally _)

namespace Machine

variable {m : Machine} {c : Command}

theorem paired_loadValues (h : m.state.Paired) (values : List Int) :
    (m.loadValues values).machine.state.Paired := by
  obtain ⟨memory, loaded⟩ := m.exists_memory_loadValues values
  rw [loaded]
  exact h

/-- **A command keeps the mode and its register paired**, whether it is refused or not. -/
theorem paired_perform (h : m.state.Paired) (c : Command) : (m.perform c).machine.state.Paired := by
  cases edit : c.edit? with
  | some f =>
    rcases frame_perform_of_edit edit m with same | frame
    · rw [same]
      exact h
    · exact h.of_eq frame.mode frame.waitRegister
  | none =>
    cases c with
    | reset now => exact .of_running rfl rfl
    | load values => exact paired_loadValues h values
    | loadProgram values now =>
      have cleared : (m.reset now).machine.state.Paired := .of_running rfl rfl
      exact paired_loadValues cleared values
    | step now =>
      obtain ⟨timers, eq⟩ := m.exists_timers_step now
      show (m.step now).machine.state.Paired
      rw [eq]
      exact m.goes_executeNext.paired h
    | executeNext => exact m.goes_executeNext.paired h
    | execute word => exact (m.goes_execute (Word.ofInt word)).paired h
    | advanceTimers elapsed =>
      obtain ⟨timers, eq⟩ := m.exists_timers_advanceTimers elapsed
      show (m.advanceTimers elapsed).machine.state.Paired
      rw [eq]
      exact h
    | _ => cases edit

/-- **The mode and its register are paired in every reachable machine.** -/
theorem Reachable.paired (h : m.Reachable) : m.state.Paired := by
  induction h with
  | powerOn setup random now => exact .of_running rfl rfl
  | perform h c ih => exact paired_perform ih c
  | observe h tracer ih => exact ih

end Machine

end Chip8
