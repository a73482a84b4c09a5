import Chip8.Proofs.Pairing
import Mathlib.Data.List.Forall2

/-!
# Waiting for a key is trying again

The wait for a key is a mode: a machine that waits does not fetch, it looks at the keypad and keeps
the register in mind. A machine without that mode is simpler to understand. It fetches at every
step, and where it finds that instruction with no key down it leaves everything as it is, to find it
again at the next step (`Machine.retry`). This module shows that a host cannot tell the two apart.

The invariant is `Machine.Agrees`: the two machines have the same parts up to the mode, and while
the first one waits, the word at its program counter is the instruction that made it wait, with the
same register. Beside it stands that a register is kept in mind exactly during a wait
(`State.Paired`). What keeps the invariant is that a waiting machine changes neither its memory nor
its program counter on its own. A host could do both, and could also have a word executed that does
not stand at the program counter. So commands that redirect are admitted only while the machine is
running, and words given from outside are not admitted at all (`Mode.admits`).
-/

namespace Chip8

/-! ### The machine that tries again -/

/-- One try of the instruction that puts a key into `Vx`: with no key down nothing happens. -/
def State.tryKey (s : State) (x : RegIndex) : State :=
  match s.keypad.highest? with
  | some key =>
    { (s.setV x (BitVec.ofNat 8 key)).setPc (s.pc + 2) with executed := s.executed + 1 }
  | none => s

namespace State

variable {s : State} {x : RegIndex} {key : Fin 16}

theorem tryKey_of_up (up : s.keypad.highest? = none) : s.tryKey x = s := by
  rw [tryKey, up]

/-- A try with a key down goes on like a wait that ends. -/
theorem tryKey_of_down (down : s.keypad.highest? = some key) : s.tryKey x =
    { (s.setV x (BitVec.ofNat 8 key)).advance with executed := s.executed + 1 } := by
  rw [tryKey, down]
  rfl

theorem exec_awaitKey_of_up (up : s.keypad.highest? = none) :
    s.exec (.awaitKey x) =
      .ok ⟨{ s with mode := .waitingForKey, waitRegister := some x },
        [.keyWait s.pc.toNat x.val], [.keyWait x.val s.pc.toNat]⟩ := by
  rw [exec, awaitKey, up]

theorem exec_awaitKey_of_down (down : s.keypad.highest? = some key) :
    s.exec (.awaitKey x) = .ok (.silent (s.setV x (BitVec.ofNat 8 key)).advance) := by
  rw [exec, awaitKey, down]

/-- A running machine counts. -/
theorem tally_of_running (mode : s.mode = .running) :
    s.tally = { s with executed := s.executed + 1 } := by
  rw [tally, mode]

end State

namespace Machine

/-- Executes the word at the program counter, always. -/
def retry (m : Machine) : Outcome Fault (Option Word) :=
  match m.state.memory.readWord m.state.pc.toNat with
  | .error f => ⟨m, .error f, []⟩
  | .ok w =>
    match decode w with
    | some (.awaitKey x) =>
      ⟨{ m with state := m.state.tryKey x, last := some w }, .ok (some w), []⟩
    | _ => (m.execute w).map some

/-- Performs a command, without a mode for waiting. -/
def retryPerform (m : Machine) : Command → Outcome Refusal Reply
  | .step now => (m.retry.ticked now).map .instruction
  | .executeNext => (m.retry.mapError .fault).map .instruction
  | c => m.perform c

/-- The outcomes of a session, without a mode for waiting. -/
def retryRun (m : Machine) : List Command → List (Outcome Refusal Reply)
  | [] => []
  | c :: cs =>
    let o := m.retryPerform c
    o :: o.machine.retryRun cs

end Machine

/-! ### What a host may do -/

/-- The commands that may be given to a machine in some mode. -/
def Mode.admits (mode : Mode) : Command → Prop
  | .execute _ => False
  | c => c.redirects = true → mode = .running

theorem Mode.running_of_admits {mode : Mode} {c : Command} (admits : mode.admits c)
    (redirects : c.redirects = true) : mode = .running := by
  cases c with
  | execute word => exact admits.elim
  | _ => exact admits redirects

/-- Every command of a session is given in a mode that admits it. -/
def Machine.Admits (m : Machine) : List Command → Prop
  | [] => True
  | c :: cs => m.state.mode.admits c ∧ (m.perform c).machine.Admits cs

/-! ### Agreement -/

namespace Machine

/-- The word at the program counter puts a key into `Vx`, and it was the last one executed. -/
def FetchesKey (m : Machine) (x : RegIndex) : Prop :=
  ∃ w, m.state.memory.readWord m.state.pc.toNat = .ok w ∧ decode w = some (.awaitKey x) ∧
    m.last = some w

/-- The machine `n` is `m` without its mode, and `m` waits only at the instruction for it. -/
structure Agrees (m n : Machine) : Prop where
  state : n.state = m.state.awake
  setup : n.setup = m.setup
  last : n.last = m.last
  waits : ∀ x, m.state.mode = .waitingForKey → m.state.waitRegister = some x → m.FetchesKey x

end Machine

/-- Two outcomes with the same answer and machines that agree. -/
structure Outcome.Agrees {ε α : Type} (o r : Outcome ε α) : Prop where
  machine : o.machine.Agrees r.machine
  answer : r.answer = o.answer

namespace Outcome.Agrees

variable {ε ε' α β : Type} {o r : Outcome ε α}

theorem map (h : o.Agrees r) (f : α → β) : (o.map f).Agrees (r.map f) :=
  ⟨h.machine, congrArg (Except.map f) h.answer⟩

theorem mapError (h : o.Agrees r) (f : ε → ε') : (o.mapError f).Agrees (r.mapError f) :=
  ⟨h.machine, congrArg (Except.mapError f) h.answer⟩

theorem plain {o r : Outcome Fault Unit} (h : o.Agrees r) :
    (Machine.plain o).Agrees (Machine.plain r) :=
  (h.mapError Refusal.fault).map fun _ ↦ Reply.done

end Outcome.Agrees

namespace Machine.Agrees

variable {m n : Machine} {c : Command} {now : Int}

/-- While it is running, a machine agrees with any machine with the same parts. -/
theorem of_running {m n : Machine} (mode : m.state.mode = .running) (paired : m.state.Paired)
    (state : n.state = m.state) (setup : n.setup = m.setup) (last : n.last = m.last) :
    m.Agrees n where
  state := by rw [state, State.awake_of_running mode (paired.register_eq_none mode)]
  setup := setup
  last := last
  waits x wait := by rw [mode] at wait; cases wait

theorem state_of_running (h : m.Agrees n) (mode : m.state.mode = .running)
    (paired : m.state.Paired) : n.state = m.state := by
  rw [h.state, State.awake_of_running mode (paired.register_eq_none mode)]

/-- A word that is no instruction for a key does the same in both machines. -/
theorem execute (h : m.Agrees n) (mode : m.state.mode = .running) (paired : m.state.Paired)
    {w : Word} (other : ∀ x, decode w ≠ some (.awaitKey x)) :
    (m.execute w).Agrees (n.execute w) := by
  have state := h.state_of_running mode paired
  have pc : n.state.pc = m.state.pc := congrArg State.pc state
  have paired' := (m.goes_execute w).paired paired
  rcases m.execute_cases w with
    ⟨decodes, eq⟩ | ⟨i, f, decodes, exec, eq⟩ | ⟨i, e, decodes, exec, eq⟩
  · rw [eq, execute_of_decode_eq_none decodes, pc]
    exact ⟨.of_running mode paired state h.setup rfl, rfl⟩
  · rw [eq, execute_of_exec_error decodes (state ▸ exec)]
    exact ⟨.of_running mode paired state h.setup rfl, rfl⟩
  · have mode' : e.state.tally.mode = .running := by
      rw [State.mode_tally, (State.mode_of_exec ?_ exec).1, mode]
      rintro x rfl
      exact other x decodes
    rw [eq] at paired' ⊢
    rw [execute_of_exec_ok decodes (state ▸ exec)]
    refine ⟨.of_running ?_ paired' ?_ ?_ ?_, rfl⟩
    · rw [state_apply]
      exact mode'
    · rw [state_apply, state_apply]
    · rw [setup_apply, setup_apply]
      exact h.setup
    · rw [last_apply, last_apply]
      rfl

/-- The instruction for a key: with a key down it is completed in both machines, with no key down it
makes the first one wait. -/
theorem executeKey (h : m.Agrees n) (mode : m.state.mode = .running) (paired : m.state.Paired)
    {w : Word} {x : RegIndex} (read : m.state.memory.readWord m.state.pc.toNat = .ok w)
    (decodes : decode w = some (.awaitKey x)) (log : List LogEntry) :
    (m.execute w).Agrees ⟨{ n with state := n.state.tryKey x, last := some w }, .ok w, log⟩ := by
  have state := h.state_of_running mode paired
  have paired' := (m.goes_execute w).paired paired
  cases key : m.state.keypad.highest? with
  | none =>
    -- The first machine starts to wait and counts nothing, the second one has nothing to do.
    have waiting : (m.execute w).machine.state =
        { m.state with mode := .waitingForKey, waitRegister := some x } := by
      rw [execute_of_exec_ok decodes (State.exec_awaitKey_of_up key), state_apply]
      rfl
    refine ⟨⟨?_, ?_, ?_, ?_⟩, ?_⟩
    · show n.state.tryKey x = (m.execute w).machine.state.awake
      have awake := State.awake_of_running mode (paired.register_eq_none mode)
      rw [state, State.tryKey_of_up key, waiting]
      exact awake.symm
    · rw [setup_execute]
      exact h.setup
    · rw [last_execute]
    · intro y _ register
      rw [waiting] at register
      cases register
      refine ⟨w, ?_, decodes, last_execute m w⟩
      rw [waiting]
      exact read
    · rw [execute_of_exec_ok decodes (State.exec_awaitKey_of_up key)]
  | some key' =>
    rw [execute_of_exec_ok decodes (State.exec_awaitKey_of_down key)] at paired' ⊢
    refine ⟨.of_running ?_ paired' ?_ ?_ ?_, rfl⟩
    · rw [state_apply, State.mode_tally]
      exact mode
    · rw [state_apply]
      have counted : (m.state.setV x (BitVec.ofNat 8 key')).advance.tally = _ :=
        State.tally_of_running mode
      show n.state.tryKey x = (m.state.setV x (BitVec.ofNat 8 key')).advance.tally
      rw [state, State.tryKey_of_down key, counted]
      rfl
    · rw [setup_apply]
      exact h.setup
    · rw [last_apply]
      rfl

/-! ### One command -/

theorem retry_of_readWord_error {f : Fault}
    (read : n.state.memory.readWord n.state.pc.toNat = .error f) : n.retry = ⟨n, .error f, []⟩ := by
  rw [retry, read]

theorem retry_of_awaitKey {w : Word} {x : RegIndex}
    (read : n.state.memory.readWord n.state.pc.toNat = .ok w)
    (decodes : decode w = some (.awaitKey x)) :
    n.retry = ⟨{ n with state := n.state.tryKey x, last := some w }, .ok (some w), []⟩ := by
  simp only [retry, read, decodes]

/-- During a wait the other machine tries the instruction that the first one waits at. -/
theorem retry_of_waiting (h : m.Agrees n) {x : RegIndex} (mode : m.state.mode = .waitingForKey)
    (register : m.state.waitRegister = some x) :
    ∃ w, m.last = some w ∧
      n.retry = ⟨{ n with state := n.state.tryKey x, last := some w }, .ok (some w), []⟩ := by
  obtain ⟨w, read, decodes, last⟩ := h.waits x mode register
  have read' : n.state.memory.readWord n.state.pc.toNat = .ok w := by
    rw [h.state]
    exact read
  exact ⟨w, last, retry_of_awaitKey read' decodes⟩

theorem retry_of_other {w : Word} (read : n.state.memory.readWord n.state.pc.toNat = .ok w)
    (other : ∀ x, decode w ≠ some (.awaitKey x)) : n.retry = (n.execute w).map some := by
  rw [retry, read]
  dsimp only
  split
  · next x decodes => exact absurd decodes (other x)
  · rfl

/-- **Executing what comes next agrees with trying again.** -/
theorem executeNext (h : m.Agrees n) (paired : m.state.Paired) : m.executeNext.Agrees n.retry := by
  rcases m.executeNext_cases with
    ⟨mode, idle, eq⟩ | ⟨x, key, mode, register, down, eq⟩ | ⟨f, mode, read, eq⟩ |
    ⟨w, mode, read, eq⟩
  · -- The wait goes on: the other machine finds the same instruction again.
    obtain ⟨x, register⟩ := paired.exists_register mode
    have up : m.state.keypad.highest? = none := by
      rcases idle with up | nowhere
      · exact up
      · rw [nowhere] at register
        cases register
    obtain ⟨w, last, retry⟩ := h.retry_of_waiting mode register
    have up' : n.state.keypad.highest? = none := by
      rw [h.state]
      exact up
    rw [eq, retry, State.tryKey_of_up up', last]
    exact ⟨⟨h.state, h.setup, last.symm, h.waits⟩, rfl⟩
  · obtain ⟨w, last, retry⟩ := h.retry_of_waiting mode register
    have down' : n.state.keypad.highest? = some key := by
      rw [h.state]
      exact down
    rw [eq, retry, State.tryKey_of_down down', h.state, last]
    exact ⟨.of_running rfl (.of_running rfl rfl) rfl h.setup last.symm, rfl⟩
  · rw [eq, retry_of_readWord_error (h.state_of_running mode paired ▸ read)]
    exact ⟨h, rfl⟩
  · rw [eq]
    have read' : n.state.memory.readWord n.state.pc.toNat = .ok w :=
      h.state_of_running mode paired ▸ read
    by_cases key : ∃ x, decode w = some (.awaitKey x)
    · obtain ⟨x, decodes⟩ := key
      rw [retry_of_awaitKey read' decodes]
      exact (h.executeKey mode paired read decodes []).map some
    · have other : ∀ x, decode w ≠ some (.awaitKey x) := fun x hx ↦ key ⟨x, hx⟩
      rw [retry_of_other read' other]
      exact (h.execute mode paired other).map some

/-- A refused instruction is reported, and that is all that an attempt adds. -/
theorem attempt (h : m.Agrees n) (paired : m.state.Paired) : m.attempt.Agrees n.retry := by
  have next := h.executeNext paired
  cases answer : m.executeNext.answer with
  | error f =>
    rw [attempt_of_error answer]
    exact ⟨⟨next.machine.state, next.machine.setup, next.machine.last, next.machine.waits⟩,
      next.answer.trans answer⟩
  | ok last =>
    rw [attempt_of_ok answer]
    exact next

/-- Ticks touch neither the mode nor the word at the program counter. -/
theorem tick (h : m.Agrees n) (ticks : Int) (timers : Timers) :
    (m.tick ticks timers).Agrees (n.tick ticks timers) := by
  refine ⟨?_, ?_, ?_, ?_⟩
  · rw [state_tick, state_tick, h.state]
    rfl
  · rw [setup_tick, setup_tick]
    exact h.setup
  · rw [last_tick, last_tick]
    exact h.last
  · intro x wait register
    rw [state_tick] at wait register
    have fetches := h.waits x wait register
    rw [FetchesKey, state_tick, last_tick]
    exact fetches

/-- The ticks of a step are the same in both machines, or refused in both. -/
theorem ticked {o r : Outcome Fault (Option Word)} (h : o.Agrees r) (now : Int) :
    (o.ticked now).Agrees (r.ticked now) := by
  cases answer : o.answer with
  | error f =>
    rw [Outcome.ticked_of_error answer, Outcome.ticked_of_error (h.answer.trans answer)]
    exact ⟨h.machine, rfl⟩
  | ok last =>
    have answer' := h.answer.trans answer
    have timers : r.machine.state.timers = o.machine.state.timers := by
      rw [h.machine.state, State.awake]
    cases sampled : o.machine.state.timers.sample now with
    | error e =>
      rw [Outcome.ticked_of_timer_error answer sampled,
        Outcome.ticked_of_timer_error answer' (timers ▸ sampled)]
      exact ⟨h.machine, rfl⟩
    | ok result =>
      rw [Outcome.ticked_of_ok answer sampled, Outcome.ticked_of_ok answer' (timers ▸ sampled)]
      exact ⟨h.machine.tick result.1 result.2, rfl⟩

/-- An edit does the same in both machines. It may redirect only while there is no wait. -/
theorem edit (h : m.Agrees n) {f : State → Except Fault State} (edit : c.edit? = some f)
    (admits : c.redirects = true → m.state.mode = .running) :
    (m.perform c).Agrees (n.perform c) := by
  have edited : f n.state = (f m.state).map State.awake := by
    rw [h.state, Command.edit_awake edit]
  cases result : f m.state with
  | error e =>
    rw [result] at edited
    rw [perform_of_edit_error edit result, perform_of_edit_error edit edited]
    exact ⟨h, rfl⟩
  | ok t =>
    rw [result] at edited
    rw [perform_of_edit_ok edit result, perform_of_edit_ok edit edited]
    have frame := Command.frame_of_edit edit result
    refine ⟨⟨rfl, h.setup, h.last, ?_⟩, rfl⟩
    intro x wait register
    have waiting : m.state.mode = .waitingForKey := frame.mode ▸ wait
    have register' : m.state.waitRegister = some x := frame.waitRegister ▸ register
    -- A command that redirects is not admitted during a wait, so the word stays where it is.
    have stays : c.redirects = false := by
      rw [← Bool.not_eq_true]
      intro redirects
      rw [admits redirects] at waiting
      cases waiting
    obtain ⟨w, read, decodes, last⟩ := h.waits x waiting register'
    refine ⟨w, ?_, decodes, last⟩
    show t.memory.readWord t.pc.toNat = .ok w
    rw [frame.memory stays, frame.pc stays]
    exact read

/-- After a reset both machines are the same. -/
theorem reset (h : m.Agrees n) (now : Int) : (m.reset now).Agrees (n.reset now) := by
  have state : n.state.reset n.setup.origin now = m.state.reset m.setup.origin now := by
    rw [h.state, h.setup]
    rfl
  rw [reset_eq, reset_eq, state]
  exact ⟨.of_running rfl (.of_running rfl rfl) rfl h.setup rfl, rfl⟩

/-- Loading does the same in both machines while there is no wait. -/
theorem load (h : m.Agrees n) (mode : m.state.mode = .running) (paired : m.state.Paired)
    (image : List Byte) : (m.load image).Agrees (n.load image) := by
  have state := h.state_of_running mode paired
  cases loaded : m.state.memory.load image m.setup.origin with
  | error f =>
    have loaded' : n.state.memory.load image n.setup.origin = .error f := by
      rw [state, h.setup, loaded]
    rw [load_of_error loaded, load_of_error loaded']
    exact ⟨h, rfl⟩
  | ok memory =>
    have loaded' : n.state.memory.load image n.setup.origin = .ok memory := by
      rw [state, h.setup, loaded]
    rw [load_of_ok loaded, load_of_ok loaded', state]
    exact ⟨.of_running mode (paired.of_eq rfl rfl) rfl h.setup h.last, rfl⟩

/-- Both machines refuse a program for the same number. -/
theorem loadValues (h : m.Agrees n) (mode : m.state.mode = .running) (paired : m.state.Paired)
    (values : List Int) : (m.loadValues values).Agrees (n.loadValues values) := by
  rw [Machine.loadValues, Machine.loadValues]
  cases Memory.stray? values with
  | some v => exact ⟨h, rfl⟩
  | none => exact (h.load mode paired _).mapError _

theorem advanceTimers (h : m.Agrees n) (elapsed : Number) :
    (m.advanceTimers elapsed).Agrees (n.advanceTimers elapsed) := by
  have timers : n.state.timers = m.state.timers := by rw [h.state, State.awake]
  rw [Machine.advanceTimers, Machine.advanceTimers, timers]
  cases m.state.timers.advance elapsed with
  | error e => exact ⟨h, rfl⟩
  | ok result => exact ⟨h.tick result.1 result.2, rfl⟩

theorem loadProgramValues (h : m.Agrees n) (values : List Int) (now : Int) :
    (m.loadProgramValues values now).Agrees (n.loadProgramValues values now) := by
  have loaded := (h.reset now).machine.loadValues rfl (.of_running rfl rfl) values
  exact ⟨loaded.machine, loaded.answer⟩

theorem retryPerform_of_edit {f : State → Except Fault State} (edit : c.edit? = some f)
    (n : Machine) : n.retryPerform c = n.perform c := by
  cases c with
  | step now => cases edit
  | executeNext => cases edit
  | _ => rfl

/-- **One command keeps the agreement.** -/
theorem perform (h : m.Agrees n) (paired : m.state.Paired) (c : Command)
    (admits : m.state.mode.admits c) : (m.perform c).Agrees (n.retryPerform c) := by
  cases edit : c.edit? with
  | some f =>
    rw [retryPerform_of_edit edit]
    exact h.edit edit (Mode.running_of_admits admits)
  | none =>
    cases c with
    | reset now => exact (h.reset now).plain
    | load values => exact (h.loadValues (admits rfl) paired values).map _
    | loadProgram values now => exact (h.loadProgramValues values now).map _
    | step now => exact (ticked (h.attempt paired) now).map _
    | executeNext => exact ((h.executeNext paired).mapError _).map _
    | execute word => exact admits.elim
    | advanceTimers elapsed => exact (h.advanceTimers elapsed).map _
    | _ => cases edit

end Machine.Agrees

namespace Machine

variable {m n : Machine}

/-- A machine that agrees goes on agreeing through a whole session, and its mode and register stay
paired. -/
theorem Agrees.run {cs : List Command} (h : m.Agrees n) (paired : m.state.Paired)
    (admits : m.Admits cs) :
    List.Forall₂ (fun o r ↦ o.Agrees r ∧ o.machine.state.Paired) (m.run cs) (n.retryRun cs) := by
  induction cs generalizing m n with
  | nil => exact .nil
  | cons c cs ih =>
    have performed := h.perform paired c admits.1
    have paired' := paired_perform paired c
    exact .cons ⟨performed, paired'⟩ (ih performed.machine paired' admits.2)

end Machine

/-- What a host can tell about two outcomes, of which the second is the one without a mode. -/
structure Outcome.Mirrored (o r : Outcome Refusal Reply) : Prop where
  /-- The answer is the same, or the reason of the refusal. -/
  answer : r.answer = o.answer
  /-- All parts are the same but the mode, which does not change on the right. -/
  state : r.machine.state = o.machine.state.awake
  /-- A wait stands at the instruction for it. -/
  waits : o.machine.state.mode = .waitingForKey →
    ∃ x, o.machine.state.waitRegister = some x ∧ o.machine.FetchesKey x
  /-- A register is kept in mind exactly during a wait. -/
  register : o.machine.state.waitRegister.isSome = true ↔
    o.machine.state.mode = .waitingForKey

namespace Machine

variable {m : Machine}

/-- **Waiting for a key is trying again.** Over any session that a host may give to a running
machine, the machine without a mode answers every command alike and has the same parts after it. -/
theorem run_retries {cs : List Command} (mode : m.state.mode = .running)
    (register : m.state.waitRegister = none) (admits : m.Admits cs) :
    List.Forall₂ Outcome.Mirrored (m.run cs) (m.retryRun cs) := by
  have paired : m.state.Paired := .of_running mode register
  have start : m.Agrees m := .of_running mode paired rfl rfl rfl
  refine (start.run paired admits).imp fun o r ⟨h, paired⟩ ↦ ⟨h.answer, h.machine.state, ?_, paired⟩
  intro waiting
  obtain ⟨x, register⟩ := paired.exists_register waiting
  exact ⟨x, register, h.machine.waits x waiting register⟩

/-- A session with a program that waits for a key: it waits, and then it gets one. -/
def keySession : List Command :=
  [.loadProgram [0xF3, 0x0A] 0, .step 20, .step 40, .keyDown 5, .step 60]

/-- Over that session the two machines cannot be told apart. -/
theorem keySession_retries :
    ((standard 0x200).after (keySession.take 3)).state.mode = .waitingForKey ∧
    ((standard 0x200).after (keySession.take 3)).state.waitRegister = some 3 ∧
    ((standard 0x200).after keySession).state.v 3 = 5 ∧
    List.Forall₂ Outcome.Mirrored ((standard 0x200).run keySession)
      ((standard 0x200).retryRun keySession) := by
  refine ⟨?_, ?_, ?_, ?_⟩
  · decide +kernel
  · decide +kernel
  · decide +kernel
  · exact run_retries rfl rfl ⟨nofun, nofun, nofun, nofun, nofun, trivial⟩

end Machine

end Chip8
