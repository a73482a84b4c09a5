import Chip8.Instr.Encoding
import Chip8.Proofs.Clock
import Mathlib.Data.List.Forall2

/-!
# Time stays in the timers

A host decides when it steps a machine, what clock it lets it read, and whether it sets or advances
the timers in between. A program can see of this what it reads from the delay counter, and there is
one instruction that reads it. As long as that is not executed, nothing else of the machine depends
on time. The period of the timers may be any but zero, with which a step could be refused by its
clock.

`State.SameButTimers` are states that agree on everything but the timers. Two runs are compared by
the commands that do more than set or pass time, without their clock readings
(`Command.untimed`), and by the outcomes of these commands (`Machine.timelessRun`). One such command
keeps two machines the same but for the timers (`Machine.SameButTimers.perform`), and a command that
only sets or passes time keeps a machine the same as it was
(`Machine.sameButTimers_of_untimed_eq_none`). The main result, `Machine.sameButTimers_run`, is what
this comes to for two runs of any length.
-/

namespace Chip8

/-! ### Other timers -/

/-- The state with other timers. -/
def State.retime (s : State) (timers : Timers) : State := { s with timers }

/-- The effect with other timers. -/
def Effect.retime (e : Effect) (timers : Timers) : Effect :=
  { e with state := e.state.retime timers }

namespace State

variable {s : State} {t : Timers} {i : Instr}

/-- What an instruction makes of timers. -/
def settle (s : State) (i : Instr) (t : Timers) : Timers :=
  match i with
  | .setDelay x => t.setDelay (s.v x).toNat
  | .setSound x => t.setSound (s.v x).toNat
  | _ => t

theorem putV_retime (s : State) (t : Timers) (k : Nat) (bytes : List Byte) :
    (s.retime t).putV k bytes = (s.putV k bytes).retime t := by
  induction bytes generalizing s k with
  | nil => rfl
  | cons b bs ih =>
    rw [putV, putV]
    split
    · next h => exact ih (s.setV ⟨k, h⟩ b) (k + 1)
    · exact ih s (k + 1)

theorem finish_retime (s : State) (t : Timers) (x : RegIndex) (result : Byte) (flag : Option Bool) :
    (s.retime t).finish x result flag = (s.finish x result flag).retime t := by
  cases flag with
  | none => rfl
  | some flag => rfl

theorem awaitKey_retime (s : State) (t : Timers) (x : RegIndex) :
    (s.retime t).awaitKey x = (s.awaitKey x).retime t := by
  have keypad : (s.retime t).keypad = s.keypad := rfl
  rw [awaitKey, awaitKey, keypad]
  cases s.keypad.highest? with
  | none => rfl
  | some key => rfl

theorem tally_retime (s : State) (t : Timers) : (s.retime t).tally = s.tally.retime t := by
  have mode : (s.retime t).mode = s.mode := rfl
  rw [tally, tally, mode]
  cases s.mode with
  | running => rfl
  | waitingForKey => rfl

/-- **One instruction reads the timers.** Any other one does the same with other timers. -/
theorem exec_retime (other : ∀ x, i ≠ .readDelay x) :
    (s.retime t).exec i = (s.exec i).map (·.retime (s.settle i t)) := by
  cases i with
  | readDelay x => exact absurd rfl (other x)
  | ret | call target | skipKey down x | draw x y rows | digits x | store x =>
    exact Fault.bind_eq_map_bind fun part ↦ rfl
  | fetch x =>
    refine Fault.bind_eq_map_bind fun bytes ↦ ?_
    exact congrArg (fun r ↦ Except.ok (Effect.silent r.advance)) (s.putV_retime t 0 bytes)
  | awaitKey x => exact congrArg Except.ok (s.awaitKey_retime t x)
  | alu op x y => exact congrArg (fun r ↦ Except.ok (Effect.silent r)) (s.finish_retime t x _ _)
  | _ => rfl

/-- Two states that agree on everything but the timers. -/
def SameButTimers (s t : State) : Prop := s.retime t.timers = t

theorem SameButTimers.eq {s t : State} (h : s.SameButTimers t) : s.retime t.timers = t := h

end State

/-! ### Commands without time -/

namespace Command

/-- A command with another clock reading, if it takes one. -/
def withClock (c : Command) (now : Int) : Command :=
  match c with
  | reset _ => reset now
  | loadProgram values _ => loadProgram values now
  | step _ => step now
  | c => c

/-- What is left of a command when its clock reading is forgotten: nothing of one that only sets or
passes time. -/
def untimed : Command → Option Command
  | setDelay _ => none
  | setSound _ => none
  | advanceTimers _ => none
  | c => some (c.withClock 0)

variable {c e : Command} {f : State → Except Fault State}

/-- A command is what is left of it with a clock reading. -/
theorem exists_withClock_of_untimed (h : c.untimed = some e) : ∃ now, c = e.withClock now := by
  cases c with
  | reset now | loadProgram image now | step now =>
    cases h
    exact ⟨now, rfl⟩
  | setDelay value | setSound value | advanceTimers elapsed => cases h
  | _ =>
    cases h
    exact ⟨0, rfl⟩

/-- **No edit looks at the timers**, those apart that set one. -/
theorem edit_retime (edit : c.edit? = some f) (timeless : c.untimed = some e) (s : State)
    (t : Timers) : f (s.retime t) = (f s).map (·.retime t) := by
  cases c with
  | keyDown i | keyUp i | setRegister i value | writeMemory address bytes | setPixel x y lit
  | flipPixel x y =>
    cases edit
    rw [Fault.map_map]
    rfl
  | setPc value | setIndex value | clearScreen | markDirty | clearDrawPending =>
    cases edit
    rfl
  | setDelay value | setSound value => cases timeless
  | reset now | load image | loadProgram image now | step now | executeNext | execute word
  | advanceTimers elapsed => cases edit

end Command

/-! ### Machines that are the same but for the timers -/

/-- Two machines that load programs at the same place and whose states agree on everything but the
timers. -/
structure Machine.SameButTimers (m n : Machine) : Prop where
  origin : n.setup.origin = m.setup.origin
  state : m.state.SameButTimers n.state

/-- Why an operation was refused, if it was. -/
def Outcome.refusal? {ε α : Type} (o : Outcome ε α) : Option ε :=
  match o.answer with
  | .error e => some e
  | .ok _ => none

/-- Two outcomes with machines that are the same but for the timers, both refused for the same
reason or neither. -/
structure Outcome.SameButTimers {ε α : Type} (o p : Outcome ε α) : Prop where
  machine : o.machine.SameButTimers p.machine
  refusal : p.refusal? = o.refusal?

namespace Outcome

variable {ε ε' α β : Type} {o p : Outcome ε α}

theorem refusal?_map (o : Outcome ε α) (f : α → β) : (o.map f).refusal? = o.refusal? := by
  obtain ⟨machine, answer, log⟩ := o
  cases answer with
  | error e => rfl
  | ok a => rfl

theorem refusal?_mapError (o : Outcome ε α) (f : ε → ε') :
    (o.mapError f).refusal? = o.refusal?.map f := by
  obtain ⟨machine, answer, log⟩ := o
  cases answer with
  | error e => rfl
  | ok a => rfl

theorem SameButTimers.map (h : o.SameButTimers p) (f : α → β) :
    (o.map f).SameButTimers (p.map f) where
  machine := h.machine
  refusal := by rw [refusal?_map, refusal?_map, h.refusal]

theorem SameButTimers.mapError (h : o.SameButTimers p) (f : ε → ε') :
    (o.mapError f).SameButTimers (p.mapError f) where
  machine := h.machine
  refusal := by rw [refusal?_mapError, refusal?_mapError, h.refusal]

theorem SameButTimers.plain {o p : Outcome Fault Unit} (h : o.SameButTimers p) :
    (Machine.plain o).SameButTimers (Machine.plain p) :=
  (h.mapError Refusal.fault).map fun _ ↦ Reply.done

end Outcome

namespace Machine

/-- The word that is executed next: none while the machine waits, and none if none can be
fetched. -/
def next? (m : Machine) : Option Word :=
  match m.state.mode with
  | .running => (m.state.memory.readWord m.state.pc.toNat).toOption
  | .waitingForKey => none

variable {m n : Machine} {w : Word} {now now' : Int} {c d e : Command}
  {es : List Command}

theorem next?_of_readWord (running : m.state.mode = .running)
    (read : m.state.memory.readWord m.state.pc.toNat = .ok w) : m.next? = some w := by
  rw [next?, running, read]
  rfl

/-- A word of no read decodes to no read. -/
theorem ne_readDelay_of_decode {i : Instr} (blind : ¬Opcode.ldVxDt.Fits w)
    (decodes : decode w = some i) (x : RegIndex) : i ≠ .readDelay x := by
  rintro rfl
  obtain ⟨op, fits, same⟩ := decode_eq_some_iff.1 decodes
  have read : op = .ldVxDt := by rw [← Opcode.opcode_instr w op, same]; rfl
  exact blind (read ▸ fits)

namespace SameButTimers

theorem refl (m : Machine) : m.SameButTimers m := ⟨rfl, rfl⟩

theorem symm (h : m.SameButTimers n) : n.SameButTimers m where
  origin := h.origin.symm
  state := by
    have state := h.state.eq
    rw [← state]
    rfl

theorem trans {k : Machine} (h : m.SameButTimers n) (h' : n.SameButTimers k) :
    m.SameButTimers k where
  origin := h'.origin.trans h.origin
  state := by
    have left := h.state.eq
    have right := h'.state.eq
    rw [← right, ← left]
    rfl

theorem execute (h : m.SameButTimers n) (blind : ¬Opcode.ldVxDt.Fits w) :
    (m.execute w).SameButTimers (n.execute w) := by
  have state := h.state.eq
  have pc : n.state.pc = m.state.pc := by rw [← state]; rfl
  cases decodes : decode w with
  | none =>
    rw [execute_of_decode_eq_none decodes, execute_of_decode_eq_none decodes, pc]
    exact ⟨⟨h.origin, h.state⟩, rfl⟩
  | some i =>
    have exec := State.exec_retime (s := m.state) (t := n.state.timers)
      (ne_readDelay_of_decode blind decodes)
    rw [state] at exec
    cases effect : m.state.exec i with
    | error f =>
      rw [effect] at exec
      rw [execute_of_exec_error decodes effect, execute_of_exec_error decodes exec]
      exact ⟨⟨h.origin, h.state⟩, rfl⟩
    | ok r =>
      rw [effect] at exec
      rw [execute_of_exec_ok decodes effect, execute_of_exec_ok decodes exec]
      refine ⟨⟨?_, ?_⟩, rfl⟩
      · rw [setup_apply, setup_apply]
        exact h.origin
      · rw [state_apply, state_apply]
        show r.state.tally.SameButTimers (r.state.retime _).tally
        rw [State.tally_retime]
        rfl

theorem executeNext (h : m.SameButTimers n)
    (blind : ∀ w, m.next? = some w → ¬Opcode.ldVxDt.Fits w) :
    m.executeNext.SameButTimers n.executeNext := by
  have state := h.state.eq
  have mode : n.state.mode = m.state.mode := by rw [← state]; rfl
  have keypad : n.state.keypad = m.state.keypad := by rw [← state]; rfl
  have wait : n.state.waitRegister = m.state.waitRegister := by rw [← state]; rfl
  have read : n.state.memory.readWord n.state.pc.toNat =
      m.state.memory.readWord m.state.pc.toNat := by
    rw [← state]
    rfl
  rcases m.executeNext_cases with
    ⟨waits, idle, eq⟩ | ⟨x, key, waits, register, down, eq⟩ | ⟨f, runs, fails, eq⟩ |
    ⟨w, runs, fetched, eq⟩
  · rw [← keypad, ← wait] at idle
    rw [eq, executeNext_of_waiting (mode.trans waits) idle]
    exact ⟨h, rfl⟩
  · rw [eq, executeNext_of_key (mode.trans waits) (wait.trans register) (keypad ▸ down)]
    refine ⟨⟨h.origin, ?_⟩, rfl⟩
    rw [state_emit, state_emit]
    show (m.state.resumed x key).SameButTimers (n.state.resumed x key)
    rw [← state]
    rfl
  · rw [eq, executeNext_of_readWord_error (mode.trans runs) (read.trans fails)]
    exact ⟨h, rfl⟩
  · rw [eq, executeNext_of_readWord_ok (mode.trans runs) (read.trans fetched)]
    exact (h.execute (blind w (next?_of_readWord runs fetched))).map some

end SameButTimers

/-- After its instruction a step changes the timers at most. -/
theorem sameButTimers_step (m : Machine) (now : Int) :
    m.executeNext.machine.SameButTimers (m.step now).machine where
  origin := by rw [setup_step, setup_executeNext]
  state := by
    obtain ⟨timers, state⟩ := m.exists_timers_step now
    rw [state]
    rfl

theorem refusal?_step (period : m.state.timers.period ≠ 0) (now : Int) :
    (m.step now).refusal? = m.executeNext.refusal?.map .fault := by
  rw [← Outcome.refusal?_mapError, Outcome.refusal?, answer_step period]
  rfl

theorem SameButTimers.step (h : m.SameButTimers n) (hm : m.state.timers.period ≠ 0)
    (hn : n.state.timers.period ≠ 0) (blind : ∀ w, m.next? = some w → ¬Opcode.ldVxDt.Fits w)
    (now now' : Int) : (m.step now).SameButTimers (n.step now') where
  machine := by
    have next := (h.executeNext blind).machine
    exact ((m.sameButTimers_step now).symm.trans next).trans (n.sameButTimers_step now')
  refusal := by
    rw [refusal?_step hm, refusal?_step hn, (h.executeNext blind).refusal]

namespace SameButTimers

/-- A reset looks at the source of random bytes alone. -/
theorem reset (h : m.SameButTimers n) (now now' : Int) :
    (m.reset now).SameButTimers (n.reset now') := by
  have state := h.state.eq
  refine ⟨⟨h.origin, ?_⟩, rfl⟩
  show (m.state.reset m.setup.origin now).SameButTimers (n.state.reset n.setup.origin now')
  rw [h.origin, ← state]
  rfl

theorem load (h : m.SameButTimers n) (image : List Byte) :
    (m.load image).SameButTimers (n.load image) := by
  have state := h.state.eq
  have placed : n.state.memory.load image n.setup.origin =
      m.state.memory.load image m.setup.origin := by
    rw [h.origin, ← state]
    rfl
  cases loaded : m.state.memory.load image m.setup.origin with
  | error f =>
    rw [load_of_error loaded, load_of_error (placed.trans loaded)]
    exact ⟨h, rfl⟩
  | ok memory =>
    rw [load_of_ok loaded, load_of_ok (placed.trans loaded)]
    refine ⟨⟨h.origin, ?_⟩, rfl⟩
    show State.SameButTimers { m.state with memory } { n.state with memory }
    rw [← state]
    rfl

theorem loadValues (h : m.SameButTimers n) (values : List Int) :
    (m.loadValues values).SameButTimers (n.loadValues values) := by
  cases stray : Memory.stray? values with
  | some v =>
    rw [loadValues_of_stray stray, loadValues_of_stray stray]
    exact ⟨h, rfl⟩
  | none =>
    rw [loadValues_of_bytes stray, loadValues_of_bytes stray]
    exact (h.load _).mapError Refusal.fault

theorem loadProgramValues (h : m.SameButTimers n) (values : List Int) (now now' : Int) :
    (m.loadProgramValues values now).SameButTimers (n.loadProgramValues values now') := by
  have loaded := (h.reset now now').machine.loadValues values
  exact ⟨loaded.machine, loaded.refusal⟩

theorem edit (h : m.SameButTimers n) {f : State → Except Fault State} (edit : c.edit? = some f)
    (timeless : c.untimed = some e) : (m.perform c).SameButTimers (n.perform c) := by
  have state := h.state.eq
  have edited := Command.edit_retime edit timeless m.state n.state.timers
  rw [state] at edited
  cases left : f m.state with
  | error r =>
    rw [left] at edited
    rw [perform_of_edit_error edit left, perform_of_edit_error edit edited]
    exact ⟨h, rfl⟩
  | ok s =>
    rw [left] at edited
    rw [perform_of_edit_ok edit left, perform_of_edit_ok edit edited]
    exact ⟨⟨h.origin, rfl⟩, rfl⟩

end SameButTimers

/-- The word that a command executes, if it executes one. -/
def executes? (m : Machine) : Command → Option Word
  | .execute word => some (Word.ofInt word)
  | .executeNext => m.next?
  | .step _ => m.next?
  | _ => none

/-- **A command keeps two machines the same but for the timers**, whatever the clocks read. -/
theorem SameButTimers.perform (h : m.SameButTimers n) (hm : m.state.timers.period ≠ 0)
    (hn : n.state.timers.period ≠ 0) (hc : c.untimed = some e) (hd : d.untimed = some e)
    (blind : ∀ w, m.executes? c = some w → ¬Opcode.ldVxDt.Fits w) :
    (m.perform c).SameButTimers (n.perform d) := by
  obtain ⟨now, rfl⟩ := Command.exists_withClock_of_untimed hc
  obtain ⟨now', rfl⟩ := Command.exists_withClock_of_untimed hd
  cases e with
  | reset t => exact (h.reset now now').plain
  | load values => exact (h.loadValues values).map fun _ ↦ Reply.done
  | loadProgram values t => exact (h.loadProgramValues values now now').map fun _ ↦ Reply.done
  | step t => exact (h.step hm hn blind now now').map Reply.instruction
  | executeNext => exact ((h.executeNext blind).mapError Refusal.fault).map Reply.instruction
  | execute word =>
    exact ((h.execute (blind _ rfl)).mapError Refusal.fault).map (Reply.instruction ∘ some)
  | setDelay value | setSound value | advanceTimers elapsed => cases hc
  | _ => exact h.edit rfl hc

/-- **A command that only sets or passes time keeps a machine the same but for the timers.** -/
theorem sameButTimers_of_untimed_eq_none (h : c.untimed = none) :
    m.SameButTimers (m.perform c).machine := by
  cases c with
  | setDelay value | setSound value => exact ⟨rfl, rfl⟩
  | advanceTimers elapsed =>
    show m.SameButTimers (m.advanceTimers elapsed).machine
    rw [advanceTimers]
    split
    · exact .refl m
    · exact ⟨by rw [setup_tick], by rw [state_tick]; rfl⟩
  | _ => cases h

/-! ### Runs -/

/-- The outcomes of a session, without those of the commands that only set or pass time. -/
def timelessRun (m : Machine) : List Command → List (Outcome Refusal Reply)
  | [] => []
  | c :: cs =>
    let o := m.perform c
    match c.untimed with
    | some _ => o :: o.machine.timelessRun cs
    | none => o.machine.timelessRun cs

/-- The words that are executed in a session. -/
def words (m : Machine) : List Command → List Word
  | [] => []
  | c :: cs => (m.executes? c).toList ++ (m.perform c).machine.words cs

variable {cs ds : List Command}

theorem timelessRun_of_some (h : c.untimed = some e) :
    m.timelessRun (c :: cs) = m.perform c :: (m.perform c).machine.timelessRun cs := by
  rw [timelessRun, h]

theorem timelessRun_of_none (h : c.untimed = none) :
    m.timelessRun (c :: cs) = (m.perform c).machine.timelessRun cs := by
  rw [timelessRun, h]

theorem timelessRun_of_filterMap_eq_nil (h : cs.filterMap Command.untimed = []) :
    m.timelessRun cs = [] := by
  induction cs generalizing m with
  | nil => rfl
  | cons c cs ih =>
    cases timed : c.untimed with
    | some e =>
      rw [List.filterMap_cons_some timed] at h
      cases h
    | none =>
      rw [List.filterMap_cons_none timed] at h
      rw [timelessRun_of_none timed]
      exact ih h

/-- Up to its first command that does more than set or pass time, a session keeps a machine the same
but for the timers. -/
theorem exists_timelessRun_eq (period : n.state.timers.period ≠ 0)
    (h : ds.filterMap Command.untimed = e :: es) :
    ∃ k d ds', n.SameButTimers k ∧ k.state.timers.period ≠ 0 ∧ d.untimed = some e ∧
      ds'.filterMap Command.untimed = es ∧
      n.timelessRun ds = k.perform d :: (k.perform d).machine.timelessRun ds' := by
  induction ds generalizing n with
  | nil => cases h
  | cons d ds ih =>
    cases timed : d.untimed with
    | some e' =>
      rw [List.filterMap_cons_some timed] at h
      cases h
      exact ⟨n, d, ds, .refl n, period, timed, rfl, timelessRun_of_some timed⟩
    | none =>
      rw [List.filterMap_cons_none timed] at h
      obtain ⟨k, d', ds', same, rest⟩ := ih (period_perform_ne_zero period d) h
      rw [timelessRun_of_none timed]
      exact ⟨k, d', ds', (sameButTimers_of_untimed_eq_none timed).trans same, rest⟩

/-- **Time stays in the timers.** Let two machines that are the same but for the timers be given the
same commands, at any clock readings and with any commands in between that only set or pass time. As
long as the delay counter is not read, after each of the commands the machines are the same but for
the timers, and both were refused it for the same reason or neither was. -/
theorem sameButTimers_run (same : m.SameButTimers n) (hm : m.state.timers.period ≠ 0)
    (hn : n.state.timers.period ≠ 0)
    (commands : cs.filterMap Command.untimed = ds.filterMap Command.untimed)
    (blind : ∀ w ∈ m.words cs, ¬Opcode.ldVxDt.Fits w) :
    List.Forall₂ Outcome.SameButTimers (m.timelessRun cs) (n.timelessRun ds) := by
  -- Induction on the first session. In the second one, what stands before the next command that
  -- both share only sets or passes time, and is taken in one go.
  induction cs generalizing m n ds with
  | nil =>
    rw [timelessRun_of_filterMap_eq_nil commands.symm]
    exact .nil
  | cons c cs ih =>
    have later : ∀ w ∈ (m.perform c).machine.words cs, ¬Opcode.ldVxDt.Fits w :=
      fun w hw ↦ blind w (List.mem_append_right _ hw)
    have period := period_perform_ne_zero hm c
    cases timed : c.untimed with
    | none =>
      rw [List.filterMap_cons_none timed] at commands
      rw [timelessRun_of_none timed]
      exact ih ((sameButTimers_of_untimed_eq_none timed).symm.trans same) period hn commands later
    | some e =>
      rw [List.filterMap_cons_some timed] at commands
      obtain ⟨k, d, ds', waits, hk, timed', rest, run⟩ := exists_timelessRun_eq hn commands.symm
      have head : ∀ w, m.executes? c = some w → ¬Opcode.ldVxDt.Fits w := fun w hw ↦
        blind w (List.mem_append_left _ (Option.mem_toList.2 hw))
      have first := (same.trans waits).perform hm hk timed timed' head
      rw [timelessRun_of_some timed, run]
      exact .cons first (ih first.machine period (period_perform_ne_zero hk d) rest.symm later)

/-- A machine with another period than the standard one, switched on at another time. -/
def unhurried : Machine :=
  (powerOn ⟨5, by decide, 0x200, false⟩ (.cycle ⟨0, [], [], 0⟩) 7).machine

/-- A program is loaded, steps are taken, and a wait for a key begins and ends. -/
def promptSession : List Command :=
  [.loadProgram [0x61, 0x2A, 0xF1, 0x15, 0xF2, 0x0A] 0, .step 16, .step 16, .step 16, .keyDown 9,
    .step 16, .execute 0x00EE]

/-- The same with other clock readings, and with timers that are set and advanced in between. -/
def unhurriedSession : List Command :=
  [.setSound 200, .loadProgram [0x61, 0x2A, 0xF1, 0x15, 0xF2, 0x0A] 1000, .step 1016,
    .advanceTimers (.int 400), .step 900, .setDelay 3, .step 2000, .keyDown 9, .step 2001,
    .execute 0x00EE, .setSound 4]

/-- The timers end up differently, and nothing else does. -/
theorem sameButTimers_unhurriedSession :
    List.Forall₂ Outcome.SameButTimers ((standard 0x200).timelessRun promptSession)
      (unhurried.timelessRun unhurriedSession) ∧
    ((standard 0x200).after promptSession).state.timers = ⟨17, 42, 0, 0⟩ ∧
    (unhurried.after unhurriedSession).state.timers = ⟨5, 0, 4, 2000⟩ := by
  have words : (standard 0x200).words promptSession = [0x612A, 0xF115, 0xF20A, 0x00EE] := by
    decide +kernel
  have blind : ∀ w ∈ (standard 0x200).words promptSession, ¬Opcode.ldVxDt.Fits w := by
    simp only [words, List.forall_mem_cons]
    exact ⟨by decide, by decide, by decide, by decide, nofun⟩
  refine ⟨sameButTimers_run ⟨rfl, rfl⟩ (by decide) (by decide) rfl blind, ?_, ?_⟩
  · decide +kernel
  · decide +kernel

end Machine

end Chip8
