import Chip8.Machine.Command
import Chip8.Proofs.Microcode

/-!
# What a host changes from outside

Most commands of a host execute nothing. Each of them is an access to one part of the state, which
is checked before anything is written. So it comes to a part that is replaced, or to a refusal that
has changed nothing (`Command.edit?`, `Machine.perform_of_edit`). One case analysis says what such
an edit leaves alone: the call stack and the mode with its register always, the timers unless a
counter is set, and the word at the program counter unless the command is one that redirects
(`Command.Frame`, `Command.frame_of_edit`).

No edit looks at the mode, so it makes no difference whether a machine that waits for a key is
edited before or after its wait is forgotten (`Command.edit_awake`).
-/

namespace Chip8

/-- The state with a wait for a key, if there is one, forgotten. -/
def State.awake (s : State) : State := { s with mode := .running, waitRegister := none }

/-- A running machine that keeps no register for a key has no wait to forget. -/
theorem State.awake_of_running {s : State} (mode : s.mode = .running)
    (register : s.waitRegister = none) : s.awake = s := by
  rw [awake, ← mode, ← register]

namespace Command

/-- What a command makes of the state, for the commands that do nothing else. -/
def edit? : Command → Option (State → Except Fault State)
  | keyDown i => some fun s ↦ (s.keypad.press i).map fun keypad ↦ { s with keypad }
  | keyUp i => some fun s ↦ (s.keypad.release i).map fun keypad ↦ { s with keypad }
  | setRegister i value =>
    some fun s ↦ (s.registers.write i value).map fun registers ↦ { s with registers }
  | setPc value => some fun s ↦ .ok (s.setPc (Word.ofInt value))
  | setIndex value => some fun s ↦ .ok (s.setIndex (Word.ofInt value))
  | setDelay value => some fun s ↦ .ok { s with timers := s.timers.setDelay value }
  | setSound value => some fun s ↦ .ok { s with timers := s.timers.setSound value }
  | writeMemory address values =>
    some fun s ↦
      (s.memory.writeBytes address (values.map Byte.ofInt)).map fun memory ↦ { s with memory }
  | setPixel x y lit => some fun s ↦ (s.screen.set x y lit).map fun screen ↦ { s with screen }
  | flipPixel x y => some fun s ↦ (s.screen.flip x y).map fun (_, screen) ↦ { s with screen }
  | clearScreen => some fun s ↦ .ok { s with screen := s.screen.clear }
  | markDirty => some fun s ↦ .ok { s with screen := s.screen.markDirty }
  | clearDrawPending => some fun s ↦ .ok { s with screen := s.screen.clearDirty }
  | _ => none

/-- Whether a command can put another word at the program counter without executing or resetting
anything. -/
def redirects : Command → Bool
  | load _ => true
  | writeMemory .. => true
  | setPc _ => true
  | _ => false

/-- What a state after a command that edits has in common with the state before it. -/
structure Frame (c : Command) (s t : State) : Prop where
  stack : t.stack = s.stack
  mode : t.mode = s.mode
  waitRegister : t.waitRegister = s.waitRegister
  timers : t.timers =
    match c with
    | .setDelay value => s.timers.setDelay value
    | .setSound value => s.timers.setSound value
    | _ => s.timers
  memory : c.redirects = false → t.memory = s.memory
  pc : c.redirects = false → t.pc = s.pc

variable {c : Command} {f : State → Except Fault State} {s t : State}

/-- **What an edit leaves alone.** -/
theorem frame_of_edit (edit : c.edit? = some f) (h : f s = .ok t) : c.Frame s t := by
  cases c with
  | keyDown i | keyUp i | setPixel x y lit | flipPixel x y =>
    cases edit
    obtain ⟨part, -, rfl⟩ := Fault.exists_of_map_eq_ok h
    exact ⟨rfl, rfl, rfl, rfl, fun _ ↦ rfl, fun _ ↦ rfl⟩
  | setRegister i value =>
    cases edit
    obtain ⟨registers, written, rfl⟩ := Fault.exists_of_map_eq_ok h
    obtain ⟨x, -, rfl⟩ := Fault.exists_of_map_eq_ok written
    exact ⟨rfl, rfl, rfl, rfl, fun _ ↦ rfl, fun _ ↦ rfl⟩
  | writeMemory address values =>
    cases edit
    obtain ⟨memory, -, rfl⟩ := Fault.exists_of_map_eq_ok h
    exact ⟨rfl, rfl, rfl, rfl, nofun, nofun⟩
  | setPc value =>
    cases edit
    cases h
    exact ⟨rfl, rfl, rfl, rfl, nofun, nofun⟩
  | setIndex value | setDelay value | setSound value | clearScreen | markDirty
  | clearDrawPending =>
    cases edit
    cases h
    exact ⟨rfl, rfl, rfl, rfl, fun _ ↦ rfl, fun _ ↦ rfl⟩
  | reset now | load values | loadProgram values now | step now | executeNext | execute word
  | advanceTimers elapsed => cases edit

/-- No edit touches the count of instructions or the source of random bytes. -/
theorem executed_random_of_edit (edit : c.edit? = some f) (h : f s = .ok t) :
    t.executed = s.executed ∧ t.random = s.random := by
  cases c with
  | keyDown i | keyUp i | setRegister i value | writeMemory address values | setPixel x y lit
  | flipPixel x y =>
    cases edit
    obtain ⟨part, -, rfl⟩ := Fault.exists_of_map_eq_ok h
    exact ⟨rfl, rfl⟩
  | setPc value | setIndex value | setDelay value | setSound value | clearScreen | markDirty
  | clearDrawPending =>
    cases edit
    cases h
    exact ⟨rfl, rfl⟩
  | reset now | load values | loadProgram values now | step now | executeNext | execute word
  | advanceTimers elapsed => cases edit

/-- **No edit looks at the mode.** -/
theorem edit_awake (edit : c.edit? = some f) (s : State) :
    f s.awake = (f s).map State.awake := by
  cases c with
  | keyDown i | keyUp i | setRegister i value | writeMemory address values | setPixel x y lit
  | flipPixel x y =>
    cases edit
    rw [Fault.map_map]
    rfl
  | setPc value | setIndex value | setDelay value | setSound value | clearScreen | markDirty
  | clearDrawPending =>
    cases edit
    rfl
  | reset now | load values | loadProgram values now | step now | executeNext | execute word
  | advanceTimers elapsed => cases edit

end Command

namespace Machine

variable {m : Machine} {c : Command} {f : State → Except Fault State} {t : State} {e : Fault}

/-- Replaces the state, unless that is refused. -/
def update (m : Machine) (f : State → Except Fault State) : Outcome Fault Unit :=
  match f m.state with
  | .ok state => ⟨m.withState state, .ok (), []⟩
  | .error e => ⟨m, .error e, []⟩

/-- **An access to a part of the state replaces that part, or is refused and has changed
nothing.** -/
theorem plain_act_within {σ α : Type} {part : State → σ} {put : σ → State → State}
    {x : Access Fault σ α} {g : σ → Except Fault (α × σ)} (same : ∀ s, put (part s) s = s)
    (run : ∀ t, x.run t = Access.ending t (g t)) (m : Machine) :
    plain (m.act (Action.within part put x)) =
      plain (m.update fun s ↦ (g (part s)).map fun r ↦ put r.2 s) := by
  have ran := Action.run_within (a := ⟨m.state, m.tracer, []⟩) (same m.state) (run (part m.state))
  rw [act, ran, update]
  cases g (part m.state) with
  | ok r => rfl
  | error e => rfl

/-- A command that edits is performed by its edit. -/
theorem perform_of_edit (edit : c.edit? = some f) (m : Machine) :
    m.perform c = plain (m.update f) := by
  -- An access without an answer is one that answers nothing.
  have silent {σ : Type} {part : State → σ} {put : σ → State → State} {x : Access Fault σ Unit}
      {g : σ → Except Fault σ} (same : ∀ s, put (part s) s = s)
      (run : ∀ t, x.run t = Access.ending t ((g t).map ((), ·))) :
      plain (m.act (Action.within part put x)) =
        plain (m.update fun s ↦ (g (part s)).map (put · s)) := by
    rw [plain_act_within same run]
    simp only [Fault.map_map]
  cases c with
  | keyDown i =>
    cases edit
    rw [perform, keyDown, Action.onKeypad]
    exact silent (fun _ ↦ rfl) fun k ↦ Keypad.run_pressing k i
  | keyUp i =>
    cases edit
    rw [perform, keyUp, Action.onKeypad]
    exact silent (fun _ ↦ rfl) fun k ↦ Keypad.run_releasing k i
  | setRegister i value =>
    cases edit
    rw [perform, setRegister, Action.onRegisters]
    exact silent (fun _ ↦ rfl) fun r ↦ Registers.run_writing r i value
  | writeMemory address values =>
    cases edit
    rw [perform, writeMemory, Action.writeBytes, Action.onMemory]
    exact silent (fun _ ↦ rfl) fun t ↦ Memory.run_writing t address (values.map Byte.ofInt)
  | setPixel x y lit =>
    cases edit
    rw [perform, setPixel, Action.onScreen]
    exact silent (fun _ ↦ rfl) fun t ↦ Screen.run_setting t x y lit
  | flipPixel x y =>
    cases edit
    rw [perform, flipPixel, Action.flip, Action.onScreen]
    exact plain_act_within (fun _ ↦ rfl) (fun t ↦ Screen.run_flipping t x y) m
  | setPc value | setIndex value | setDelay value | setSound value | clearScreen | markDirty
  | clearDrawPending =>
    cases edit
    rfl
  | reset now | load values | loadProgram values now | step now | executeNext | execute word
  | advanceTimers elapsed => cases edit

/-- An edit that is accepted. -/
theorem perform_of_edit_ok (edit : c.edit? = some f) (h : f m.state = .ok t) :
    m.perform c = ⟨m.withState t, .ok .done, []⟩ := by
  rw [perform_of_edit edit, update, h]
  rfl

/-- An edit that is refused changes nothing. -/
theorem perform_of_edit_error (edit : c.edit? = some f) (h : f m.state = .error e) :
    m.perform c = ⟨m, .error (.fault e), []⟩ := by
  rw [perform_of_edit edit, update, h]
  rfl

/-- A byte is put into a register as it is. -/
theorem perform_setRegister (m : Machine) (x : RegIndex) (b : Byte) :
    m.perform (.setRegister x.val b.toNat) = ⟨m.withState (m.state.setV x b), .ok .done, []⟩ := by
  refine perform_of_edit_ok rfl ?_
  rw [Registers.write_val]
  rfl

/-- A word is put into the index register as it is. -/
theorem perform_setIndex (m : Machine) (i : Word) :
    m.perform (.setIndex i.toNat) = ⟨m.withState (m.state.setIndex i), .ok .done, []⟩ := by
  refine perform_of_edit_ok rfl ?_
  rw [Word.ofInt_toNat]

/-- A command that edits leaves what its edit leaves alone, also if it is refused. -/
theorem frame_perform_of_edit (edit : c.edit? = some f) (m : Machine) :
    (m.perform c).machine.state = m.state ∨ c.Frame m.state (m.perform c).machine.state := by
  cases h : f m.state with
  | ok t =>
    rw [perform_of_edit_ok edit h]
    exact .inr (Command.frame_of_edit edit h)
  | error e =>
    rw [perform_of_edit_error edit h]
    exact .inl rfl

end Machine

end Chip8
