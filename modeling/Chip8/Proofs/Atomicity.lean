import Chip8.Proofs.Clock

/-!
# A refusal leaves no trace

Whatever a machine is asked to execute or to load, if it refuses, then every part of it is as it
was: registers, memory, call stack with its dead slots, screen and its flag, keypad, timers with
their baseline, mode and waiting register, count and random source. What may differ is the word that
it executed last and
what observers were told.

For a single word this is the order of its actions (`Instr.run_microcode`). A step adds that the
clock is not looked at before the instruction has been completed, so a refused step takes no tick
and leaves the baseline behind for the next one. Once the instruction has been completed nothing can
fail: the number of ticks exists unless the period of the timers was set to zero
(`Machine.answer_step`).
-/

namespace Chip8

namespace Machine

variable {m : Machine} {w : Word} {f : Fault} {now : Int}

/-- Two machines with the same parts and the same setup. They may differ in the word that was
executed last and in what observers were told. -/
def SameParts (m n : Machine) : Prop := m.state = n.state ∧ m.setup = n.setup

/-- A refused program leaves the machine as it is. -/
theorem machine_load_of_error {image : List Byte} (h : (m.load image).answer = .error f) :
    (m.load image).machine = m := by
  cases load : m.state.memory.load image m.setup.origin with
  | ok memory =>
    rw [load_of_ok load] at h
    cases h
  | error f' => rw [load_of_error load]

/-- So does a refused list of numbers, also if one of them is no byte. -/
theorem machine_loadValues_of_error {values : List Int} {r : Refusal}
    (h : (m.loadValues values).answer = .error r) : (m.loadValues values).machine = m := by
  cases stray : Memory.stray? values with
  | some v => rw [loadValues_of_stray stray]
  | none =>
    rw [loadValues_of_bytes stray] at h ⊢
    cases answer : (m.load (values.map Byte.ofInt)).answer with
    | error f => exact machine_load_of_error answer
    | ok _ => simp [Outcome.mapError, answer, Except.mapError] at h

/-- A step that is refused by a fault is one whose instruction was refused. -/
theorem answer_executeNext_of_step (h : (m.step now).answer = .error (.fault f)) :
    m.executeNext.answer = .error f := by
  cases answer : m.executeNext.answer with
  | error f' =>
    rw [step_of_error answer] at h
    cases h
    rfl
  | ok last =>
    have attempted := (answer_attempt m).trans answer
    cases sampled : m.attempt.machine.state.timers.sample now with
    | error e =>
      rw [step_eq_ticked, Outcome.ticked_of_timer_error attempted sampled] at h
      cases h
    | ok result =>
      rw [step_eq_ticked, Outcome.ticked_of_ok attempted sampled] at h
      cases h

/-- Unless the period of the timers was set to zero, a step can only be refused by a fault. -/
theorem exists_fault_of_step (period : m.state.timers.period ≠ 0) {r : Refusal}
    (h : (m.step now).answer = .error r) : ∃ f, r = .fault f := by
  rw [answer_step period] at h
  cases answer : m.executeNext.answer with
  | error f =>
    rw [answer] at h
    cases h
    exact ⟨f, rfl⟩
  | ok last =>
    rw [answer] at h
    cases h

/-- **What is refused leaves no trace.** A word, the next word, a step at any clock reading and a
program, as bytes or as numbers: if the machine refuses it, every part of it is as it was. Unless
the period of the timers was set to zero, a fault is the only reason why a step can be refused. -/
theorem parts_stay_of_refusal (m : Machine) :
    (∀ w f, (m.execute w).answer = .error f → (m.execute w).machine.SameParts m) ∧
    (∀ f, m.executeNext.answer = .error f → m.executeNext.machine.SameParts m) ∧
    (∀ now f, (m.step now).answer = .error (.fault f) → (m.step now).machine.SameParts m) ∧
    (∀ now r, m.state.timers.period ≠ 0 → (m.step now).answer = .error r → ∃ f, r = .fault f) ∧
    (∀ image f, (m.load image).answer = .error f → (m.load image).machine = m) ∧
    ∀ values r, (m.loadValues values).answer = .error r → (m.loadValues values).machine = m := by
  refine ⟨?_, ?_, ?_, ?_, ?_, ?_⟩
  · intro w f h
    exact ⟨state_execute_of_error h, setup_execute m w⟩
  · intro f h
    exact ⟨state_executeNext_of_error h, setup_executeNext m⟩
  · intro now f h
    have answer := answer_executeNext_of_step h
    rw [step_of_error answer]
    refine ⟨?_, ?_⟩
    · rw [state_attempt, state_executeNext_of_error answer]
    · rw [setup_attempt, setup_executeNext]
  · intro now r period h
    exact exists_fault_of_step period h
  · intro image f h
    exact machine_load_of_error h
  · intro values r h
    exact machine_loadValues_of_error h

/-- A machine at the last address, with a sprite that would begin there. -/
def lastAddress : Machine := ((standard 0xFFF).setIndex 0xFFF).machine

/-- That machine can neither draw, nor fetch, nor load two bytes, and stays. -/
theorem parts_stay_at_last_address :
    (lastAddress.execute 0xD015).machine.SameParts lastAddress ∧
    lastAddress.executeNext.machine.SameParts lastAddress ∧
    (lastAddress.step 5000).machine.SameParts lastAddress ∧
    (lastAddress.load [0x60, 0x01]).machine = lastAddress ∧
    (lastAddress.loadValues [0x60, 0x100]).machine = lastAddress := by
  obtain ⟨execute, executeNext, step, reason, load, loadValues⟩ := parts_stay_of_refusal lastAddress
  obtain ⟨f, ⟨⟩⟩ := reason 5000 (.fault (.outOfRange .memory 0x1000 0xFFF)) (by decide) rfl
  refine ⟨?_, ?_, ?_, ?_, ?_⟩
  · exact execute _ (.outOfRange .memory 0x1003 0xFFF) rfl
  · exact executeNext (.outOfRange .memory 0x1000 0xFFF) rfl
  · exact step 5000 _ rfl
  · exact load _ (.outOfRange .memory 0x1000 0xFFF) rfl
  · exact loadValues _ (.notAByte 0x100) rfl

end Machine

end Chip8
