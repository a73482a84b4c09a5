import Chip8.Proofs.Accounting
import Chip8.Proofs.CallReturn
import Chip8.Proofs.Reach
import Chip8.Proofs.Timing

/-!
# Which instructions are counted

A machine counts the instructions that it completes. Whether one was completed it tells from its
mode afterwards: after an instruction that has begun to wait for a key it is not running. A host
that has words executed can do so during a wait too, and then the mode is no sign of what the word
did. A word that is completed during a wait is not counted, and the wait goes on as if it had not
been executed, even if it is the instruction for a key and a key is down.

So the count is the number of completed instructions without those that the host had executed past a
wait (`Machine.executed_after`). What one word does to the mode and to the count is
`Machine.counted_execute`.
-/

namespace Chip8

/-- During a wait nothing is counted. -/
theorem State.tally_of_waiting {s : State} (mode : s.mode = .waitingForKey) : s.tally = s := by
  rw [tally, mode]

/-- By how much a mode counts an instruction. -/
def Mode.unit : Mode → Nat
  | running => 1
  | waitingForKey => 0

theorem State.executed_tally (s : State) : s.tally.executed = s.executed + s.mode.unit := by
  rcases mode : s.mode with _ | _
  · rw [tally_of_running mode]
    rfl
  · rw [tally_of_waiting mode]
    rfl

namespace Machine

variable {m : Machine} {c : Command} {cs : List Command} {w answer : Word}

/-! ### Words -/

/-- Whether a word begins to wait: it is the one for a key, and no key is down. -/
def Awaits (m : Machine) (w : Word) : Prop :=
  Opcode.ldVxK.Fits w ∧ m.state.keypad.highest? = none

instance (m : Machine) (w : Word) : Decidable (m.Awaits w) := inferInstanceAs (Decidable (_ ∧ _))

/-- A word that does not begin to wait leaves the mode and its register as they are. -/
theorem mode_of_exec_of_not_awaits {op : Opcode} {e : Effect} (fits : op.Fits w)
    (exec : m.state.exec (op.instr w) = .ok e) (goes : ¬m.Awaits w) :
    e.state.mode = m.state.mode ∧ e.state.waitRegister = m.state.waitRegister := by
  by_cases key : op = .ldVxK
  · subst key
    obtain ⟨k, down⟩ := Option.ne_none_iff_exists'.1 fun up ↦ goes ⟨fits, up⟩
    cases (State.exec_awaitKey_of_down down).symm.trans exec
    exact ⟨rfl, rfl⟩
  · refine State.mode_of_exec (fun x same ↦ key ?_) exec
    rw [← Opcode.opcode_instr w op, same]
    rfl

/-- **What a completed word does to the mode and to the count.** The mode and its register stay, and
the word is counted in the mode for running. -/
theorem counted_execute (h : (m.execute w).answer = .ok answer) (goes : ¬m.Awaits w) :
    (m.execute w).machine.state.mode = m.state.mode ∧
      (m.execute w).machine.state.waitRegister = m.state.waitRegister ∧
      (m.execute w).machine.state.executed = m.state.executed + m.state.mode.unit := by
  obtain ⟨i, e, decodes, exec, state⟩ := exists_exec_of_execute h
  obtain ⟨op, fits, rfl⟩ := decode_eq_some_iff.1 decodes
  obtain ⟨mode, register⟩ := mode_of_exec_of_not_awaits fits exec goes
  refine ⟨by rw [state, State.mode_tally, mode], by rw [state, State.waitRegister_tally, register],
    ?_⟩
  rw [state, State.executed_tally, mode, (State.frame_of_exec exec).executed]

/-- A word that begins to wait is answered and not counted. -/
theorem execute_of_awaits (awaits : m.Awaits w) :
    (m.execute w).machine.state =
      { m.state with mode := .waitingForKey, waitRegister := some (Word.x w) } := by
  obtain ⟨fits, up⟩ := awaits
  rw [state_execute_of_exec_ok (decode_of_fits fits) (State.exec_awaitKey_of_up up),
    State.tally_of_waiting rfl]

/-! ### Commands -/

/-- Whether a word is completed: it is answered and does not begin to wait. -/
def completesWord (m : Machine) (w : Word) : Bool := (m.execute w).answer.isOk && !decide (m.Awaits w)

/-- Whether the next word or, during a wait, the instruction that waits is completed. -/
def completesNext (m : Machine) : Bool :=
  match m.state.mode with
  | .running => m.next?.any m.completesWord
  | .waitingForKey => m.state.keypad.highest?.isSome && m.state.waitRegister.isSome

/-- Whether a command completes an instruction. -/
def completes (m : Machine) : Command → Bool
  | .execute word => m.completesWord (Word.ofInt word)
  | .executeNext => m.completesNext
  | .step _ => m.completesNext
  | _ => false

/-- Whether a command has a word executed past a wait. -/
def bypasses (m : Machine) : Command → Bool
  | .execute _ => m.state.mode = .waitingForKey
  | _ => false

/-- What a word adds to the count. -/
theorem executed_execute (m : Machine) (w : Word) :
    (m.execute w).machine.state.executed =
      m.state.executed + if m.completesWord w then m.state.mode.unit else 0 := by
  by_cases awaits : m.Awaits w
  · rw [execute_of_awaits awaits, completesWord, decide_eq_true awaits, Bool.not_true,
      Bool.and_false]
    rfl
  · rw [completesWord, decide_eq_false awaits, Bool.not_false, Bool.and_true]
    rcases answer : (m.execute w).answer with f | a
    · rw [state_execute_of_error answer]
      rfl
    · exact (counted_execute answer awaits).2.2

/-- What is executed next is counted if it is completed. -/
theorem executed_executeNext (m : Machine) :
    m.executeNext.machine.state.executed = m.state.executed + m.completesNext.toNat := by
  rcases m.executeNext_cases with
    ⟨waits, idle, eq⟩ | ⟨x, key, waits, register, down, eq⟩ | ⟨f, runs, fails, eq⟩ |
    ⟨w, runs, fetched, eq⟩
  · rw [eq, completesNext, waits]
    rcases idle with up | nowhere
    · simp only [up, Option.isSome_none, Bool.false_and]
      rfl
    · simp only [nowhere, Option.isSome_none, Bool.and_false]
      rfl
  · rw [eq, completesNext, waits]
    simp only [down, register]
    rfl
  · have unread : m.next? = none := by
      rw [next?, runs, fails]
      rfl
    rw [eq, completesNext, runs]
    simp only [unread]
    rfl
  · have executed := m.executed_execute w
    rw [eq, completesNext, runs]
    simp only [next?_of_readWord runs fetched]
    rw [runs] at executed
    refine executed.trans ?_
    show _ = m.state.executed + (m.completesWord w).toNat
    rcases m.completesWord w with _ | _
    · rfl
    · rfl

/-- An edit executes nothing. -/
theorem completes_of_edit {f : State → Except Fault State} (edit : c.edit? = some f) :
    m.completes c = false := by
  cases c with
  | step now | executeNext | execute word => cases edit
  | _ => rfl

/-- A word that a host has executed is counted if it is completed, but not past a wait. -/
theorem executed_perform_execute (m : Machine) (word : Int) :
    (m.perform (.execute word)).machine.state.executed +
        (m.completes (.execute word) && m.bypasses (.execute word)).toNat =
      m.state.executed + (m.completes (.execute word)).toNat := by
  have executed := m.executed_execute (Word.ofInt word)
  show (m.execute (Word.ofInt word)).machine.state.executed + _ = _
  rw [executed, completes, bypasses]
  rcases m.completesWord (Word.ofInt word) with _ | _
  · rfl
  · rcases m.state.mode with _ | _
    · rfl
    · rfl

/-- **A command is counted if it completes an instruction and does not execute it past a wait.** -/
theorem executed_perform (keeps : c.resets = false) :
    (m.perform c).machine.state.executed + (m.completes c && m.bypasses c).toNat =
      m.state.executed + (m.completes c).toNat := by
  rcases edit : c.edit? with _ | f
  · cases c with
    | load values =>
      obtain ⟨memory, loaded⟩ := m.exists_memory_loadValues values
      show (m.loadValues values).machine.state.executed + 0 = m.state.executed + 0
      rw [loaded]
    | step now =>
      obtain ⟨timers, stepped⟩ := m.exists_timers_step now
      show (m.step now).machine.state.executed + (m.completesNext && false).toNat = _
      rw [stepped, Bool.and_false]
      exact m.executed_executeNext
    | executeNext =>
      show m.executeNext.machine.state.executed + (m.completesNext && false).toNat = _
      rw [Bool.and_false]
      exact m.executed_executeNext
    | execute word => exact m.executed_perform_execute word
    | advanceTimers elapsed =>
      obtain ⟨timers, advanced⟩ := m.exists_timers_advanceTimers elapsed
      show (m.advanceTimers elapsed).machine.state.executed + 0 = m.state.executed + 0
      rw [advanced]
    | reset now | loadProgram values now => cases keeps
    | _ => cases edit
  · rw [completes_of_edit edit]
    rcases edited : f m.state with e | t
    · rw [perform_of_edit_error edit edited]
      rfl
    · rw [perform_of_edit_ok edit edited]
      exact (Command.executed_random_of_edit edit edited).1

/-! ### Sessions -/

/-- How many instructions a session completes. -/
def completed (m : Machine) : List Command → Nat
  | [] => 0
  | c :: cs => (m.completes c).toNat + (m.perform c).machine.completed cs

/-- How many of the instructions that a session completes are executed past a wait. -/
def bypassed (m : Machine) : List Command → Nat
  | [] => 0
  | c :: cs => (m.completes c && m.bypasses c).toNat + (m.perform c).machine.bypassed cs

/-- Through a session without a reset, the count grows by the instructions that are completed,
without those that are executed past a wait. -/
theorem executed_after (keeps : ∀ c ∈ cs, c.resets = false) :
    (m.after cs).state.executed + m.bypassed cs = m.state.executed + m.completed cs := by
  induction cs generalizing m with
  | nil => rfl
  | cons c cs ih =>
    have first := executed_perform (m := m) (keeps c List.mem_cons_self)
    have rest := ih (m := (m.perform c).machine) fun d hd ↦ keeps d (List.mem_cons_of_mem c hd)
    rw [bypassed, completed]
    show ((m.perform c).machine.after cs).state.executed + _ = _
    omega

/-- **What is counted.** A running machine that completes a word counts it and goes on running. A
machine that waits and has a word executed that it completes does not count it and goes on waiting.
Since a reset, the count is the number of completed instructions, without those that were executed
past a wait. -/
theorem counts_completions (m : Machine) :
    (∀ w answer, (m.execute w).answer = .ok answer → ¬m.Awaits w → m.state.mode = .running →
      (m.execute w).machine.state.executed = m.state.executed + 1 ∧
        (m.execute w).machine.state.mode = .running) ∧
    (∀ w answer, (m.execute w).answer = .ok answer → ¬m.Awaits w →
      m.state.mode = .waitingForKey →
      (m.execute w).machine.state.executed = m.state.executed ∧
        (m.execute w).machine.state.mode = .waitingForKey ∧
        (m.execute w).machine.state.waitRegister = m.state.waitRegister) ∧
    ∀ now cs, (∀ c ∈ cs, c.resets = false) →
      ((m.reset now).machine.after cs).state.executed + (m.reset now).machine.bypassed cs =
        (m.reset now).machine.completed cs := by
  refine ⟨fun w answer h goes runs ↦ ?_, fun w answer h goes waits ↦ ?_, fun now cs keeps ↦ ?_⟩
  · obtain ⟨mode, -, executed⟩ := counted_execute h goes
    rw [runs] at mode executed
    exact ⟨executed, mode⟩
  · obtain ⟨mode, register, executed⟩ := counted_execute h goes
    rw [waits] at mode executed
    exact ⟨executed, mode, register⟩
  · have counted := executed_after (m := (m.reset now).machine) keeps
    have fresh : (m.reset now).machine.state.executed = 0 := by
      rw [reset_eq]
      rfl
    rw [counted, fresh, Nat.zero_add]

/-- A host does not wait: while the machine waits for a key to go to `V1`, it presses one and has
another instruction for a key executed. Then it lets the machine go on. -/
def impatientSession : List Command :=
  [.execute 0x6407, .execute 0xF10A, .keyDown 5, .execute 0xF20A, .executeNext]

/-- The machine of that host when the key is down. -/
def impatient : Machine := ((standard 0x200).reset 0).machine.after (impatientSession.take 3)

/-- Before the wait words are counted; during the wait one is completed and not counted; then the
wait ends, which is counted. -/
theorem counts_completions_of_impatientSession :
    (((standard 0x200).execute 0x6407).machine.state.executed = 1 ∧
      ((standard 0x200).execute 0x6407).machine.state.mode = .running) ∧
    ((impatient.execute 0xF20A).machine.state.executed = impatient.state.executed ∧
      (impatient.execute 0xF20A).machine.state.mode = .waitingForKey ∧
      (impatient.execute 0xF20A).machine.state.waitRegister = impatient.state.waitRegister) ∧
    (((standard 0x200).reset 0).machine.after impatientSession).state.executed + 1 = 3 := by
  refine ⟨?_, ?_, ?_⟩
  · exact (counts_completions (standard 0x200)).1 0x6407 0x6407 (by rfl) (by decide +kernel) rfl
  · exact (counts_completions impatient).2.1 0xF20A 0xF20A (by rfl) (by decide +kernel) (by rfl)
  · have bypassed : ((standard 0x200).reset 0).machine.bypassed impatientSession = 1 := by
      decide +kernel
    have completed : ((standard 0x200).reset 0).machine.completed impatientSession = 3 := by
      decide +kernel
    have counted := (counts_completions (standard 0x200)).2.2 0 impatientSession (by decide)
    rwa [bypassed, completed] at counted

/-- **A wait hides what is completed.** The instruction for a key is completed with a key down, but
it is not counted, and the wait for another register is not over: that register gets the key as well
when the machine goes on. -/
theorem impatient_overlooks :
    impatient.Reachable ∧ (impatient.execute 0xF20A).answer = .ok 0xF20A ∧
    impatient.state.keypad.highest? = some 5 ∧
    (impatient.execute 0xF20A).machine.state.v 2 = 5 ∧
    (impatient.execute 0xF20A).machine.state.executed ≠ impatient.state.executed + 1 ∧
    (impatient.execute 0xF20A).machine.state.mode ≠ .running ∧
    (impatient.execute 0xF20A).machine.executeNext.machine.state.v 1 = 5 := by
  refine ⟨?_, by rfl, ?_, ?_, ?_, ?_, ?_⟩
  · exact ((reachable_standard 0x200).perform (.reset 0)).after _
  all_goals decide +kernel

end Machine

end Chip8
