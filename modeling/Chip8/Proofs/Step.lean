import Chip8.Proofs.Microcode

/-!
# What a step can do

Equations for the operations that execute something, one for each way in which they can go. All that
is proved about executing rests on these, not on the definitions.

* `Machine.execute`: the word is no instruction, or the instruction ends with a fault, or it has an
  effect (`Machine.execute_cases`).
* `Machine.executeNext`: a wait that goes on, a wait that ends, a word that cannot be fetched, or a
  word that is executed (`Machine.executeNext_cases`).
* `Machine.load`: the program fits or it does not (`Machine.load_of_ok`, `Machine.load_of_error`);
  numbers that are no bytes are refused before that (`Machine.loadValues_cases`).
* `Machine.attempt` adds reports only; `Machine.step` then takes the ticks of the timers.

`State.Goes` is what all of this comes to for the state: it stays, a wait ends, or one instruction
is executed. The last two never go with a fault (`state_executeNext_of_error`).
-/

namespace Chip8

/-- The state in which a wait for a key that goes to `Vx` has ended. -/
def State.resumed (s : State) (x : RegIndex) (key : Fin 16) : State :=
  ({ s with mode := .running, waitRegister := none, executed := s.executed + 1 }.setV x
    (BitVec.ofNat 8 key)).advance

/-- How a state can go on where a machine executes something. -/
inductive State.Goes (s : State) : State → Prop
  /-- Nothing is executed, or it is refused. -/
  | stays : s.Goes s
  /-- The wait for a key ends. -/
  | resumes {x : RegIndex} {key : Fin 16} (mode : s.mode = .waitingForKey)
      (register : s.waitRegister = some x) (down : s.keypad.highest? = some key) :
      s.Goes (s.resumed x key)
  /-- An instruction is executed and counted. -/
  | executes {i : Instr} {e : Effect} (exec : s.exec i = .ok e) : s.Goes e.state.tally

namespace State

@[simp] theorem executed_resumed (s : State) (x : RegIndex) (key : Fin 16) :
    (s.resumed x key).executed = s.executed + 1 := rfl

@[simp] theorem mode_resumed (s : State) (x : RegIndex) (key : Fin 16) :
    (s.resumed x key).mode = .running := rfl

/-- Counting an instruction changes the count only. -/
theorem exists_executed_tally (s : State) : ∃ executed, s.tally = { s with executed } := by
  rw [tally]
  split
  · exact ⟨_, rfl⟩
  · exact ⟨s.executed, rfl⟩

@[simp] theorem timers_tally (s : State) : s.tally.timers = s.timers := by
  obtain ⟨executed, h⟩ := s.exists_executed_tally
  rw [h]

@[simp] theorem mode_tally (s : State) : s.tally.mode = s.mode := by
  obtain ⟨executed, h⟩ := s.exists_executed_tally
  rw [h]

@[simp] theorem waitRegister_tally (s : State) : s.tally.waitRegister = s.waitRegister := by
  obtain ⟨executed, h⟩ := s.exists_executed_tally
  rw [h]

@[simp] theorem pc_tally (s : State) : s.tally.pc = s.pc := by
  obtain ⟨executed, h⟩ := s.exists_executed_tally
  rw [h]
  rfl

@[simp] theorem stack_tally (s : State) : s.tally.stack = s.stack := by
  obtain ⟨executed, h⟩ := s.exists_executed_tally
  rw [h]

@[simp] theorem random_tally (s : State) : s.tally.random = s.random := by
  obtain ⟨executed, h⟩ := s.exists_executed_tally
  rw [h]

@[simp] theorem v_tally (s : State) : s.tally.v = s.v := by
  obtain ⟨executed, h⟩ := s.exists_executed_tally
  rw [h]
  rfl

end State

namespace Outcome

variable {o : Outcome Fault (Option Word)} {f : Fault} {last : Option Word} {now : Int}

/-- The second half of a step: the ticks up to a clock reading, if there was no fault before. -/
def ticked (o : Outcome Fault (Option Word)) (now : Int) : Outcome Refusal (Option Word) :=
  match o.answer with
  | .error f => ⟨o.machine, .error (.fault f), o.log⟩
  | .ok last =>
    match o.machine.state.timers.sample now with
    | .error e => ⟨o.machine, .error (.timer e), o.log⟩
    | .ok (ticks, timers) => ⟨o.machine.tick ticks timers, .ok last, o.log⟩

theorem ticked_of_error (h : o.answer = .error f) :
    o.ticked now = ⟨o.machine, .error (.fault f), o.log⟩ := by
  rw [ticked, h]

/-- A clock reading is refused if the period of the timers is zero. -/
theorem ticked_of_timer_error {e : Timers.Error} (h : o.answer = .ok last)
    (sampled : o.machine.state.timers.sample now = .error e) :
    o.ticked now = ⟨o.machine, .error (.timer e), o.log⟩ := by
  simp only [ticked, h, sampled]

theorem ticked_of_ok {ticks : Int} {timers : Timers} (h : o.answer = .ok last)
    (sampled : o.machine.state.timers.sample now = .ok (ticks, timers)) :
    o.ticked now = ⟨o.machine.tick ticks timers, .ok last, o.log⟩ := by
  simp only [ticked, h, sampled]

end Outcome

namespace Machine

variable {m : Machine} {w : Word} {i : Instr} {e : Effect} {f : Fault} {now : Int}

/-! ### Actions -/

/-- An action that comes to an effect leaves the machine after that effect. -/
theorem act_of_ok {α : Type} {a : Action α} {v : α}
    (run : a.run ⟨m.state, m.tracer, []⟩ = .ok v ⟨e.state, m.tracer.report e.events, e.log⟩) :
    m.act a = ⟨m.apply e, .ok v, e.log⟩ := by
  rw [act, run, apply, foldl_emit]
  rfl

/-- An action that ends with a fault and has done nothing leaves the machine as it was. -/
theorem act_of_error {α : Type} {a : Action α}
    (run : a.run ⟨m.state, m.tracer, []⟩ = .error f ⟨m.state, m.tracer, []⟩) :
    m.act a = ⟨m, .error f, []⟩ := by
  rw [act, run]

/-! ### Starting and loading -/

/-- A reset is never refused. -/
theorem reset_eq (m : Machine) (now : Int) :
    m.reset now =
      ⟨{ m with state := m.state.reset m.setup.origin now, last := none }, .ok (),
        [.reset (m.state.reset m.setup.origin now).pc.toNat]⟩ := rfl

/-- The machine after a program was loaded into a machine that was reset. -/
theorem loadProgram_eq (m : Machine) (image : List Byte) (now : Int) :
    m.loadProgram image now =
      { (m.reset now).machine.load image with
        log := (m.reset now).log ++ ((m.reset now).machine.load image).log } := rfl

/-- A program that fits is written to memory, and nothing else changes. -/
theorem load_of_ok {image : List Byte} {memory : Memory Memory.standardSize}
    (h : m.state.memory.load image m.setup.origin = .ok memory) :
    m.load image =
      ⟨m.withState { m.state with memory }, .ok (), [.loaded image.length m.setup.origin]⟩ := by
  have run := Action.run_load image m.setup.origin ⟨m.state, m.tracer, []⟩
  rw [h] at run
  rw [load, act, run]
  rfl

/-- A program that does not fit changes nothing. -/
theorem load_of_error {image : List Byte}
    (h : m.state.memory.load image m.setup.origin = .error f) :
    m.load image = ⟨m, .error f, []⟩ := by
  have run := Action.run_load image m.setup.origin ⟨m.state, m.tracer, []⟩
  rw [h] at run
  exact act_of_error run

/-- Loading changes the memory at most. -/
theorem exists_memory_load (m : Machine) (image : List Byte) :
    ∃ memory, (m.load image).machine.state = { m.state with memory } := by
  cases loaded : m.state.memory.load image m.setup.origin with
  | error f =>
    rw [load_of_error loaded]
    exact ⟨m.state.memory, rfl⟩
  | ok memory =>
    rw [load_of_ok loaded]
    exact ⟨memory, rfl⟩

/-- A number that is no byte is refused before anything is written. -/
theorem loadValues_of_stray {values : List Int} {v : Int} (stray : Memory.stray? values = some v) :
    m.loadValues values = ⟨m, .error (.notAByte v), []⟩ := by
  simp only [loadValues, stray]

/-- Numbers that are bytes are loaded as these bytes. -/
theorem loadValues_of_bytes {values : List Int} (bytes : Memory.stray? values = none) :
    m.loadValues values = (m.load (values.map Byte.ofInt)).mapError .fault := by
  simp only [loadValues, bytes]

/-- A program given as a list of numbers is refused for one of them, or loaded as some bytes. -/
theorem loadValues_cases (m : Machine) (values : List Int) :
    (∃ v, m.loadValues values = ⟨m, .error (.notAByte v), []⟩) ∨
    ∃ image, m.loadValues values = (m.load image).mapError .fault := by
  cases stray : Memory.stray? values with
  | some v => exact .inl ⟨v, loadValues_of_stray stray⟩
  | none => exact .inr ⟨_, loadValues_of_bytes stray⟩

/-- Loading numbers changes the memory at most. -/
theorem exists_memory_loadValues (m : Machine) (values : List Int) :
    ∃ memory, (m.loadValues values).machine.state = { m.state with memory } := by
  rcases m.loadValues_cases values with ⟨v, eq⟩ | ⟨image, eq⟩
  · rw [eq]
    exact ⟨m.state.memory, rfl⟩
  · rw [eq]
    exact m.exists_memory_load image

/-! ### Executing a word -/

/-- The machine that is about to execute a word: the word is remembered and reported. -/
def announce (m : Machine) (w : Word) (i : Instr) : Machine :=
  { m with last := some w }.emit (.instruction m.state.pc.toNat w.toNat i.text)

/-- The line that a machine writes to the log before it executes a word. -/
def announcement (m : Machine) (w : Word) (i : Instr) : List LogEntry :=
  if m.setup.traceInstructions then [.instruction m.state.pc.toNat w.toNat i.text] else []

@[simp] theorem state_announce (m : Machine) (w : Word) (i : Instr) :
    (m.announce w i).state = m.state := rfl

@[simp] theorem setup_announce (m : Machine) (w : Word) (i : Instr) :
    (m.announce w i).setup = m.setup := rfl

@[simp] theorem last_announce (m : Machine) (w : Word) (i : Instr) :
    (m.announce w i).last = some w := rfl

/-- A word that is no instruction is remembered and nothing else. -/
theorem execute_of_decode_eq_none (hd : decode w = none) :
    m.execute w =
      ⟨{ m with last := some w },
        .error (.unknownInstruction w.toNat (some (m.state.pc.toNat : Int))), []⟩ := by
  rw [execute, hd]

/-- The actions of a word that is an instruction: its microcode, and then the count. -/
def counted (i : Instr) : Action Unit := do
  i.microcode
  Action.change State.tally

/-- A word that is an instruction is announced, and then its actions are run. -/
theorem execute_of_decode (hd : decode w = some i) :
    m.execute w =
      { machine := ((m.announce w i).act (counted i)).machine
        answer := ((m.announce w i).act (counted i)).answer.map fun _ ↦ w
        log := m.announcement w i ++ ((m.announce w i).act (counted i)).log } := by
  rw [execute, hd]
  simp only [notify_eq_emit]
  rfl

/-- An instruction with an effect. -/
theorem execute_of_exec_ok (hd : decode w = some i) (he : m.state.exec i = .ok e) :
    m.execute w =
      ⟨(m.announce w i).apply { e with state := e.state.tally }, .ok w,
        m.announcement w i ++ e.log⟩ := by
  have run : (counted i).run ⟨(m.announce w i).state, (m.announce w i).tracer, []⟩ =
      .ok () ⟨e.state.tally, (m.announce w i).tracer.report e.events, e.log⟩ := by
    rw [counted, EStateM.run_bind, state_announce, Instr.run_microcode, he]
    rfl
  rw [execute_of_decode hd, act_of_ok (e := { e with state := e.state.tally }) run]
  rfl

theorem state_execute_of_exec_ok (hd : decode w = some i) (he : m.state.exec i = .ok e) :
    (m.execute w).machine.state = e.state.tally := by
  rw [execute_of_exec_ok hd he, state_apply]

/-- An instruction with an effect is completed. The state is that of the effect but for the
count. -/
theorem completed_of_exec (hd : decode w = some i) (he : m.state.exec i = .ok e) :
    (m.execute w).answer = .ok w ∧
      ∃ executed, (m.execute w).machine.state = { e.state with executed } := by
  rw [execute_of_exec_ok hd he, state_apply]
  exact ⟨rfl, e.state.exists_executed_tally⟩

/-- An instruction that ends with a fault: what was announced stays, and nothing else. -/
theorem execute_of_exec_error (hd : decode w = some i) (he : m.state.exec i = .error f) :
    m.execute w = ⟨m.announce w i, .error f, m.announcement w i⟩ := by
  -- The fault ends the actions before the count, with the effect that they started with.
  have run : (counted i).run ⟨(m.announce w i).state, (m.announce w i).tracer, []⟩ =
      .error f ⟨(m.announce w i).state, (m.announce w i).tracer, []⟩ := by
    rw [counted, EStateM.run_bind, state_announce, Instr.run_microcode, he]
    rfl
  rw [execute_of_decode hd, act_of_error run, List.append_nil]
  rfl

/-- **Executing a word comes to one of three things.** It is no instruction, or the instruction is
refused, or it is completed and counted. -/
theorem execute_cases (m : Machine) (w : Word) :
    (decode w = none ∧
      m.execute w =
        ⟨{ m with last := some w },
          .error (.unknownInstruction w.toNat (some (m.state.pc.toNat : Int))), []⟩) ∨
    (∃ i f, decode w = some i ∧ m.state.exec i = .error f ∧
      m.execute w = ⟨m.announce w i, .error f, m.announcement w i⟩) ∨
    ∃ i e, decode w = some i ∧ m.state.exec i = .ok e ∧
      m.execute w =
        ⟨(m.announce w i).apply { e with state := e.state.tally }, .ok w,
          m.announcement w i ++ e.log⟩ := by
  cases decodes : decode w with
  | none => exact .inl ⟨rfl, execute_of_decode_eq_none decodes⟩
  | some i =>
    cases exec : m.state.exec i with
    | error f => exact .inr (.inl ⟨i, f, rfl, exec, execute_of_exec_error decodes exec⟩)
    | ok e => exact .inr (.inr ⟨i, e, rfl, exec, execute_of_exec_ok decodes exec⟩)

/-- A word that is not refused is an instruction, which is executed and counted. -/
theorem exists_exec_of_execute {answer : Word} (h : (m.execute w).answer = .ok answer) :
    ∃ i e, decode w = some i ∧ m.state.exec i = .ok e ∧
      (m.execute w).machine.state = e.state.tally := by
  rcases m.execute_cases w with ⟨-, eq⟩ | ⟨i, f, -, -, eq⟩ | ⟨i, e, decodes, exec, -⟩
  · rw [eq] at h
    cases h
  · rw [eq] at h
    cases h
  · exact ⟨i, e, decodes, exec, state_execute_of_exec_ok decodes exec⟩

/-- A word that is refused has not changed the state. -/
theorem state_execute_of_error (h : (m.execute w).answer = .error f) :
    (m.execute w).machine.state = m.state := by
  rcases m.execute_cases w with ⟨-, eq⟩ | ⟨i, f', -, -, eq⟩ | ⟨i, e, -, -, eq⟩
  · rw [eq]
  · rw [eq, state_announce]
  · rw [eq] at h
    cases h

theorem goes_execute (m : Machine) (w : Word) : m.state.Goes (m.execute w).machine.state := by
  rcases m.execute_cases w with ⟨-, eq⟩ | ⟨i, f, -, -, eq⟩ | ⟨i, e, -, exec, eq⟩
  · rw [eq]
    exact .stays
  · rw [eq]
    exact .stays
  · rw [eq, state_apply]
    exact .executes exec

/-- The setup stays whatever is executed. -/
@[simp] theorem setup_execute (m : Machine) (w : Word) :
    (m.execute w).machine.setup = m.setup := by
  rcases m.execute_cases w with ⟨-, eq⟩ | ⟨i, f, -, -, eq⟩ | ⟨i, e, -, -, eq⟩
  · rw [eq]
  · rw [eq, setup_announce]
  · rw [eq, setup_apply, setup_announce]

/-- The word is remembered whether it was completed or not. -/
@[simp] theorem last_execute (m : Machine) (w : Word) : (m.execute w).machine.last = some w := by
  rcases m.execute_cases w with ⟨-, eq⟩ | ⟨i, f, -, -, eq⟩ | ⟨i, e, -, -, eq⟩
  · rw [eq]
  · rw [eq, last_announce]
  · rw [eq, last_apply, last_announce]

/-! ### Executing the next word -/

/-- While no key is down, or there is no register for it, a machine that waits goes on waiting. -/
theorem executeNext_of_waiting (mode : m.state.mode = .waitingForKey)
    (idle : m.state.keypad.highest? = none ∨ m.state.waitRegister = none) :
    m.executeNext = ⟨m, .ok m.last, []⟩ := by
  have run : Action.retryKey.run ⟨m.state, m.tracer, []⟩ = .ok () ⟨m.state, m.tracer, []⟩ := by
    rw [Action.retryKey, EStateM.run_bind, Action.run_pollKey_of_waiting idle]
    rfl
  have acted : m.act Action.retryKey = ⟨m, .ok (), []⟩ := act_of_ok (e := .silent m.state) run
  simp only [executeNext, mode, acted]
  rfl

/-- A key that is down ends a wait. -/
theorem executeNext_of_key {x : RegIndex} {key : Fin 16} (mode : m.state.mode = .waitingForKey)
    (register : m.state.waitRegister = some x) (down : m.state.keypad.highest? = some key) :
    m.executeNext =
      ⟨(m.withState (m.state.resumed x key)).emit (.keyResume m.state.pc.toNat x.val key.val),
        .ok m.last, [.keyResumed key.val x.val]⟩ := by
  let e : Effect := ⟨m.state.resumed x key, [.keyResume m.state.pc.toNat x.val key.val],
    [.keyResumed key.val x.val]⟩
  have run : Action.retryKey.run ⟨m.state, m.tracer, []⟩ =
      .ok () ⟨e.state, m.tracer.report e.events, e.log⟩ := by
    rw [Action.retryKey, EStateM.run_bind, Action.run_pollKey_of_key down register]
    rfl
  have acted : m.act Action.retryKey = ⟨m.apply e, .ok (), e.log⟩ := act_of_ok run
  simp only [executeNext, mode, acted]
  rfl

/-- A word that cannot be fetched changes nothing. -/
theorem executeNext_of_readWord_error (mode : m.state.mode = .running)
    (read : m.state.memory.readWord m.state.pc.toNat = .error f) :
    m.executeNext = ⟨m, .error f, []⟩ := by
  simp only [executeNext, mode, read]

/-- A word that is fetched is executed. -/
theorem executeNext_of_readWord_ok (mode : m.state.mode = .running)
    (read : m.state.memory.readWord m.state.pc.toNat = .ok w) :
    m.executeNext = (m.execute w).map some := by
  simp only [executeNext, mode, read]

/-- **Executing the next word comes to one of four things.** A wait goes on, a wait ends, no word
can be fetched, or one is fetched and executed. -/
theorem executeNext_cases (m : Machine) :
    (m.state.mode = .waitingForKey ∧
      (m.state.keypad.highest? = none ∨ m.state.waitRegister = none) ∧
      m.executeNext = ⟨m, .ok m.last, []⟩) ∨
    (∃ x key, m.state.mode = .waitingForKey ∧ m.state.waitRegister = some x ∧
      m.state.keypad.highest? = some key ∧
      m.executeNext =
        ⟨(m.withState (m.state.resumed x key)).emit (.keyResume m.state.pc.toNat x.val key.val),
          .ok m.last, [.keyResumed key.val x.val]⟩) ∨
    (∃ f, m.state.mode = .running ∧ m.state.memory.readWord m.state.pc.toNat = .error f ∧
      m.executeNext = ⟨m, .error f, []⟩) ∨
    ∃ w, m.state.mode = .running ∧ m.state.memory.readWord m.state.pc.toNat = .ok w ∧
      m.executeNext = (m.execute w).map some := by
  cases mode : m.state.mode with
  | waitingForKey =>
    cases key : m.state.keypad.highest? with
    | none => exact .inl ⟨rfl, .inl rfl, executeNext_of_waiting mode (.inl key)⟩
    | some k =>
      cases register : m.state.waitRegister with
      | none => exact .inl ⟨rfl, .inr rfl, executeNext_of_waiting mode (.inr register)⟩
      | some x => exact .inr (.inl ⟨x, k, rfl, rfl, rfl, executeNext_of_key mode register key⟩)
  | running =>
    cases read : m.state.memory.readWord m.state.pc.toNat with
    | error f =>
      exact .inr (.inr (.inl ⟨f, rfl, rfl, executeNext_of_readWord_error mode read⟩))
    | ok w => exact .inr (.inr (.inr ⟨w, rfl, rfl, executeNext_of_readWord_ok mode read⟩))

/-- What is refused has not changed the state. -/
theorem state_executeNext_of_error (h : m.executeNext.answer = .error f) :
    m.executeNext.machine.state = m.state := by
  rcases m.executeNext_cases with
    ⟨-, -, eq⟩ | ⟨x, key, -, -, -, eq⟩ | ⟨f', -, -, eq⟩ | ⟨w, -, -, eq⟩
  · rw [eq]
  · rw [eq] at h
    cases h
  · rw [eq]
  · rw [eq] at h ⊢
    refine state_execute_of_error (f := f) ?_
    cases answer : (m.execute w).answer with
    | error f' => simpa [Outcome.map, answer, Except.map] using h
    | ok w' => simp [Outcome.map, answer, Except.map] at h

theorem goes_executeNext (m : Machine) : m.state.Goes m.executeNext.machine.state := by
  rcases m.executeNext_cases with
    ⟨-, -, eq⟩ | ⟨x, key, mode, register, down, eq⟩ | ⟨f, -, -, eq⟩ | ⟨w, -, -, eq⟩
  · rw [eq]
    exact .stays
  · rw [eq]
    exact .resumes mode register down
  · rw [eq]
    exact .stays
  · rw [eq]
    exact goes_execute m w

/-- The setup stays whatever is executed next. -/
@[simp] theorem setup_executeNext (m : Machine) : m.executeNext.machine.setup = m.setup := by
  rcases m.executeNext_cases with
    ⟨-, -, eq⟩ | ⟨x, key, -, -, -, eq⟩ | ⟨f, -, -, eq⟩ | ⟨w, -, -, eq⟩
  · rw [eq]
  · rw [eq]
    rfl
  · rw [eq]
  · rw [eq]
    exact setup_execute m w

/-! ### Ticks -/

/-- Ticks are reported unless there were none. -/
theorem tick_eq (m : Machine) (ticks : Int) (timers : Timers) :
    m.tick ticks timers =
      if ticks = 0 then m.withState { m.state with timers }
      else (m.withState { m.state with timers }).emit
        (.timerTick ticks timers.delay timers.sound) := by
  simp only [tick, notify_eq_emit]

/-- Taking ticks changes the timers, and what observers were told. -/
theorem exists_tracer_tick (m : Machine) (ticks : Int) (timers : Timers) :
    ∃ tracer, m.tick ticks timers = { m with state := { m.state with timers }, tracer } := by
  rw [tick_eq]
  split
  · exact ⟨_, rfl⟩
  · exact ⟨_, rfl⟩

@[simp] theorem state_tick (m : Machine) (ticks : Int) (timers : Timers) :
    (m.tick ticks timers).state = { m.state with timers } := by
  obtain ⟨tracer, h⟩ := m.exists_tracer_tick ticks timers
  rw [h]

@[simp] theorem setup_tick (m : Machine) (ticks : Int) (timers : Timers) :
    (m.tick ticks timers).setup = m.setup := by
  obtain ⟨tracer, h⟩ := m.exists_tracer_tick ticks timers
  rw [h]

@[simp] theorem last_tick (m : Machine) (ticks : Int) (timers : Timers) :
    (m.tick ticks timers).last = m.last := by
  obtain ⟨tracer, h⟩ := m.exists_tracer_tick ticks timers
  rw [h]

/-- Letting a duration pass changes the timers at most. -/
theorem exists_timers_advanceTimers (m : Machine) (elapsed : Number) :
    ∃ timers, (m.advanceTimers elapsed).machine.state = { m.state with timers } := by
  rw [advanceTimers]
  cases m.state.timers.advance elapsed with
  | error e => exact ⟨m.state.timers, rfl⟩
  | ok result => exact ⟨result.2, m.state_tick result.1 result.2⟩

/-! ### Steps -/

/-- A refused instruction is reported and written to the log. -/
theorem attempt_of_error (h : m.executeNext.answer = .error f) :
    m.attempt =
      ⟨m.executeNext.machine.emit (.fault m.executeNext.machine.state.pc.toNat f), .error f,
        m.executeNext.log ++ [.stepAborted m.executeNext.machine.state.pc.toNat f]⟩ := by
  simp only [attempt, h, notify_eq_emit]

/-- An instruction that is not refused is all of the attempt. -/
theorem attempt_of_ok {last : Option Word} (h : m.executeNext.answer = .ok last) :
    m.attempt = m.executeNext := by
  simp only [attempt, h]

@[simp] theorem state_attempt (m : Machine) :
    m.attempt.machine.state = m.executeNext.machine.state := by
  cases h : m.executeNext.answer with
  | error f => rw [attempt_of_error h, state_emit]
  | ok last => rw [attempt_of_ok h]

@[simp] theorem setup_attempt (m : Machine) :
    m.attempt.machine.setup = m.executeNext.machine.setup := by
  cases h : m.executeNext.answer with
  | error f => rw [attempt_of_error h, setup_emit]
  | ok last => rw [attempt_of_ok h]

@[simp] theorem answer_attempt (m : Machine) : m.attempt.answer = m.executeNext.answer := by
  cases h : m.executeNext.answer with
  | error f => rw [attempt_of_error h]
  | ok last => rw [attempt_of_ok h, h]

/-- A step is an attempt with the ticks after it. -/
theorem step_eq_ticked (m : Machine) (now : Int) : m.step now = m.attempt.ticked now := rfl

/-- A refused instruction is where a step ends: no tick is taken. -/
theorem step_of_error (h : m.executeNext.answer = .error f) (now : Int) :
    m.step now = ⟨m.attempt.machine, .error (.fault f), m.attempt.log⟩ := by
  rw [step_eq_ticked, Outcome.ticked_of_error ((answer_attempt m).trans h)]

/-- After an instruction that was not refused the ticks up to the clock reading are taken. -/
theorem step_of_ok {last : Option Word} {ticks : Int} {timers : Timers}
    (h : m.executeNext.answer = .ok last)
    (sampled : m.executeNext.machine.state.timers.sample now = .ok (ticks, timers)) :
    m.step now = ⟨m.attempt.machine.tick ticks timers, .ok last, m.attempt.log⟩ := by
  rw [← state_attempt] at sampled
  rw [step_eq_ticked, Outcome.ticked_of_ok ((answer_attempt m).trans h) sampled]

/-- After the instruction of a step the timers change at most. -/
theorem exists_timers_step (m : Machine) (now : Int) :
    ∃ timers, (m.step now).machine.state = { m.executeNext.machine.state with timers } := by
  have attempted := answer_attempt m
  rw [step_eq_ticked, ← state_attempt]
  cases answer : m.executeNext.answer with
  | error f =>
    rw [Outcome.ticked_of_error (attempted.trans answer)]
    exact ⟨_, rfl⟩
  | ok last =>
    cases sampled : m.attempt.machine.state.timers.sample now with
    | error e =>
      rw [Outcome.ticked_of_timer_error (attempted.trans answer) sampled]
      exact ⟨_, rfl⟩
    | ok result =>
      rw [Outcome.ticked_of_ok (attempted.trans answer) sampled, state_tick]
      exact ⟨_, rfl⟩

/-! ### A machine to try things on -/

/-- A machine that was switched on at the clock reading zero with nothing but zeros as random
bytes. -/
def standard (origin : Int) : Machine :=
  (powerOn ⟨Timers.standardPeriod, Timers.standardPeriod_pos, origin, false⟩
    (.cycle ⟨0, [], [], 0⟩) 0).machine

end Machine

end Chip8
