import Chip8.Proofs.HandlerAgreement
import Chip8.Proofs.Reset
import Chip8.Proofs.WellFormed

/-!
# Sessions on plain numbers and on states

A machine whose registers, cells and slots are bytes and words by their types cannot leave their
ranges. Whether it does what the machine of plain numbers does is another matter, and is shown here:
every command leaves the same numbers behind and is answered alike or refused for the same reason
(`Bare.run_perform`), and so no session tells the two apart (`Bare.after_bare`).

With the invariant of the plain numbers (`Bare.State.WellFormed`) this gives both halves of
`Bare.wellFormed_of_session`: masks and checks keep the numbers in range, and the numbers are those
of the machine that all other modules are about.

An instruction that is refused half way leaves the word that was executed last, and nothing else
that it did (`Bare.run_execute`). A step takes its ticks after the instruction, so a clock that is
refused leaves the instruction done (`Bare.run_step`).
-/

namespace Chip8

namespace Bare

/-! ### Resets -/

/-- The power-on memory: zeros with the font table put among them. -/
theorem setSlice_zeros_font :
    Sequence.setSlice (List.replicate Memory.standardSize 0) Font.base
        (Font.base + (Font.table.toList.map fun b ↦ (b.toNat : Int)).length)
        (Font.table.toList.map fun b ↦ (b.toNat : Int)) =
      numbers (Memory.blank Memory.standardSize).cells.toList := by
  have span : Memory.checkSpan Memory.standardSize Font.base Font.table.toList.length = .ok () := by
    decide
  have zeros : numbers (Vector.replicate (max Memory.standardSize Font.size) (0 : Byte)).toList =
      List.replicate Memory.standardSize 0 := by
    rw [numbers, Vector.toList_replicate, List.map_replicate]
    exact congrArg₂ List.replicate (Nat.max_eq_left (by decide)) rfl
  have placed := setSlice_cells (m := ⟨Vector.replicate _ 0⟩) span
  rw [zeros] at placed
  rw [List.length_map, ← numbers, placed, Memory.blank, Int.toNat_natCast]

/-- **What a reset leaves does not depend on what there was before**, except for the shape of the
grid, the period of the timers and the source of random bytes. -/
theorem run_reset {t : State} {s : Chip8.State} {now : Int} (origin : Int)
    (pixels : t.pixels.map (fun row ↦ row.map fun _ ↦ false) =
      (Screen.blank Screen.standardWidth Screen.standardHeight).toLists)
    (timers : t.timers.reset now = s.timers.reset now) (random : t.random = s.random) :
    (reset origin now).run t = .ok () ((s.reset origin now).bare none) := by
  have memory : resetMemory.run t =
      .ok () { t with cells := numbers (Memory.blank Memory.standardSize).cells.toList } := by
    rw [resetMemory, EStateM.run_bind, Access.run_change, Sequence.setSlice_all]
    simp only [Access.run_change, setSlice_zeros_font]
  have pc : origin % 65536 = ((Word.ofInt origin).toNat : Int) := (Word.toNat_ofInt origin).symm
  rw [reset, EStateM.run_bind, memory]
  simp only [resetRegisters, setPc, resetStack, resetScreen, darken, setDirty, resetKeys,
    EStateM.run_bind, Access.run_change, pixels, timers, random, pc]
  simp only [State.bare, State.reset]
  rfl

end Bare

namespace Machine

open Bare

variable (m : Machine)

/-- A machine that is reset. -/
theorem run_reset_bare (now : Int) :
    (Bare.reset m.setup.origin now).run m.bare = .ok () (m.reset now).machine.bare :=
  Bare.run_reset m.setup.origin (toLists_blank m.state.screen) rfl rfl

/-- **A machine that was just switched on.** -/
theorem bare_powerOn (setup : Setup) (random : RandomSource) (now : Int) :
    (powerOn setup random now).machine.bare = Bare.powerOn setup random now := by
  have dark : (State.initial setup.period random).pixels.map (fun row ↦ row.map fun _ ↦ false) =
      (Screen.blank Screen.standardWidth Screen.standardHeight).toLists := by
    show (List.replicate _ (List.replicate _ false)).map _ = _
    decide
  rw [Bare.powerOn, Bare.run_reset setup.origin dark
    (s := .powerOn ⟨setup.period, 0, 0, 0⟩ random setup.origin now) rfl rfl]
  rfl

end Machine

namespace Outcome

open Bare

variable {α β : Type}

/-- What an operation of a machine leaves and answers, in plain numbers. -/
def bare (o : Outcome Refusal α) : EStateM.Result Stop Bare.State α :=
  match o.answer with
  | .ok a => .ok a o.machine.bare
  | .error r => .error (.refused r) o.machine.bare

@[simp] theorem left_bare (o : Outcome Refusal α) : Access.left o.bare = o.machine.bare := by
  rw [bare]
  cases o.answer with
  | ok a => rfl
  | error r => rfl

variable {o : Outcome Fault α}

theorem bare_of_ok {a : α} (answer : o.answer = .ok a) (g : α → β) :
    ((o.mapError .fault).map g).bare = .ok (g a) o.machine.bare := by
  simp only [bare, map, mapError, answer]
  rfl

theorem bare_of_error {f : Fault} (answer : o.answer = .error f) (g : α → β) :
    ((o.mapError .fault).map g).bare = .error (.refused (.fault f)) o.machine.bare := by
  simp only [bare, map, mapError, answer]
  rfl

end Outcome

namespace Bare

variable {α β : Type} {m : Machine}

/-- What is answered can be replaced on both sides. -/
theorem run_map {a : Action α} {o : Outcome Refusal α} (run : a.run m.bare = o.bare) (f : α → β) :
    (do return f (← a)).run m.bare = (o.map f).bare := by
  obtain ⟨machine, answer, log⟩ := o
  rw [EStateM.run_bind, run]
  cases answer with
  | ok v => rfl
  | error r => rfl

variable (m)

/-! ### Executing -/

/-- Counting an instruction, unless the machine waits for a key. -/
theorem run_tally (s : Chip8.State) (l : Option Word) (a : α) :
    (do
      if (← Access.part).mode = .running then count
      return a : Action α).run (s.bare l) = .ok a (s.tally.bare l) := by
  rw [EStateM.run_bind, Access.run_part]
  cases mode : s.mode with
  | running =>
    have running : (s.bare l).mode = .running := mode
    have counted : s.tally = { s with executed := s.executed + 1 } := by rw [State.tally, mode]
    simp only [running, if_true]
    rw [counted]
    rfl
  | waitingForKey =>
    have waiting : (s.bare l).mode = .waitingForKey := mode
    have uncounted : s.tally = s := by rw [State.tally, mode]
    simp only [waiting, reduceCtorEq, if_false]
    rw [uncounted]
    rfl

/-- A word is executed. -/
theorem run_execute (word : Int) :
    (execute word).run m.bare =
      (((m.execute (Word.ofInt word)).mapError .fault).map fun w ↦ (w.toNat : Int)).bare := by
  have number : word % 65536 = ((Word.ofInt word).toNat : Int) := (Word.toNat_ofInt word).symm
  have start : { m.bare with last := some ((Word.ofInt word).toNat : Int) } =
      m.state.bare (some (Word.ofInt word)) := rfl
  rw [execute, EStateM.run_bind, Access.run_part]
  simp only [EStateM.run_bind, Access.run_change, number, Word.ofInt_toNat]
  rw [start]
  rcases m.execute_cases (Word.ofInt word) with
    ⟨unknown, eq⟩ | ⟨i, f, decodes, refused, eq⟩ | ⟨i, e, decodes, exec, eq⟩
  · rw [eq, identify, unknown]
    rfl
  · -- The instruction is refused, and nothing is left of it but the word.
    obtain ⟨op, fits, rfl⟩ := decode_eq_some_iff.1 decodes
    rw [eq, identify, decodes]
    simp only [Option.map_some, Opcode.opcode_instr]
    rw [EStateM.run_bind, run_handler, refused]
    rfl
  · -- The instruction is completed, and counted unless it started a wait.
    obtain ⟨op, fits, rfl⟩ := decode_eq_some_iff.1 decodes
    rw [eq, identify, decodes]
    simp only [Option.map_some, Opcode.opcode_instr]
    rw [EStateM.run_bind, run_handler, exec]
    have after : ((m.announce (Word.ofInt word) (op.instr (Word.ofInt word))).apply
        { e with state := e.state.tally }).bare = e.state.tally.bare (some (Word.ofInt word)) := by
      rw [Machine.bare, Machine.state_apply, Machine.last_apply, Machine.last_announce]
    exact (run_tally e.state _ _).trans (congrArg (EStateM.Result.ok _) after.symm)

/-- The word at the program counter is executed, or a key is looked for. -/
theorem run_executeNext :
    executeNext.run m.bare =
      ((m.executeNext.mapError .fault).map fun last ↦ last.map fun w ↦ (w.toNat : Int)).bare := by
  have mode_bare : m.bare.mode = m.state.mode := rfl
  rw [executeNext, EStateM.run_bind, Access.run_part]
  simp only [mode_bare]
  rcases m.executeNext_cases with
    ⟨mode, idle, eq⟩ | ⟨x, key, mode, register, down, eq⟩ | ⟨f, mode, read, eq⟩ |
      ⟨w, mode, read, eq⟩
  · -- The wait goes on.
    have polled := run_pollKey_of_waiting m.state m.last idle
    rw [eq, mode]
    simp only
    rw [EStateM.run_bind, Machine.bare, polled]
    rfl
  · -- A key ends the wait.
    have polled := run_pollKey_of_key m.state m.last down register
    rw [eq, mode]
    simp only
    rw [EStateM.run_bind, Machine.bare, polled]
    rfl
  · -- There is no word at the program counter.
    have fetched := run_readWord m.state m.last m.state.pc.toNat
    rw [read] at fetched
    rw [eq, mode]
    simp only
    rw [EStateM.run_bind, Access.run_part]
    simp only [EStateM.run_bind]
    rw [Machine.bare, pc_bare, fetched]
    rfl
  · have fetched := run_readWord m.state m.last m.state.pc.toNat
    rw [read] at fetched
    have executed := run_execute m w.toNat
    rw [Word.ofInt_toNat] at executed
    rw [eq, mode]
    simp only
    rw [EStateM.run_bind, Access.run_part]
    simp only [EStateM.run_bind]
    rw [Machine.bare, pc_bare, fetched]
    refine (run_map executed some).trans ?_
    rcases m.execute w with ⟨machine, answer | answer, log⟩
    · rfl
    · rfl

/-- Ticks are taken of the timers, whether they are reported or not. -/
theorem bare_tick (ticks : Int) (timers : Timers) :
    (m.tick ticks timers).bare = State.bare { m.state with timers } m.last := by
  rw [Machine.bare, Machine.state_tick, Machine.last_tick]

theorem run_advanceTimers (elapsed : Number) :
    (passTime (·.advance elapsed)).run m.bare = (m.advanceTimers elapsed).bare := by
  rw [Machine.bare, run_passTime, Machine.advanceTimers]
  cases m.state.timers.advance elapsed with
  | error e => rfl
  | ok r => exact congrArg (EStateM.Result.ok r.1) (bare_tick m r.1 r.2).symm

/-- After an instruction that was not refused the ticks are taken. -/
theorem run_step (now : Int) :
    (step now).run m.bare =
      ((m.step now).map fun last ↦ last.map fun w ↦ (w.toNat : Int)).bare := by
  rw [step, EStateM.run_bind, run_executeNext]
  cases answer : m.executeNext.answer with
  | error f =>
    rw [Outcome.bare_of_error answer, Machine.step_of_error answer, Machine.attempt_of_error answer]
    rfl
  | ok last =>
    rw [Outcome.bare_of_ok answer, Machine.step_eq_ticked, Machine.attempt_of_ok answer]
    simp only [EStateM.run_bind]
    rw [Machine.bare, run_passTime]
    cases sampled : m.executeNext.machine.state.timers.sample now with
    | error e =>
      rw [Outcome.ticked_of_timer_error answer sampled]
      rfl
    | ok r =>
      rw [Outcome.ticked_of_ok answer sampled]
      exact congrArg (EStateM.Result.ok _) (bare_tick m.executeNext.machine r.1 r.2).symm

/-! ### Programs and edits -/

theorem run_loadValues (values : List Int) :
    (load values m.setup.origin).run m.bare = (m.loadValues values).bare := by
  cases stray : Memory.stray? values with
  | some v =>
    rw [Machine.loadValues_of_stray stray, load]
    simp only [stray]
    rfl
  | none =>
    rw [Machine.loadValues_of_bytes stray, Machine.bare, run_load _ _ _ _ stray]
    cases loaded : m.state.memory.load (values.map Byte.ofInt) m.setup.origin with
    | error f =>
      rw [Machine.load_of_error loaded]
      rfl
    | ok memory =>
      rw [Machine.load_of_ok loaded]
      rfl

variable {m}

/-- A command that edits is performed by its edit. -/
theorem run_edit {c : Command} {f : Chip8.State → Except Fault Chip8.State} {a : Action α}
    {g : Except Fault (α × Chip8.State)} (edit : c.edit? = some f)
    (same : f m.state = g.map Prod.snd) (run : a.run m.bare = ending m.state m.last g) :
    (do
      let _ ← a
      return Reply.done).run m.bare = (m.perform c).bare := by
  rw [EStateM.run_bind, run]
  cases g with
  | ok r =>
    rw [Machine.perform_of_edit_ok edit same]
    rfl
  | error e =>
    rw [Machine.perform_of_edit_error edit same]
    rfl

variable (m)

/-- The last instruction is answered by its word. -/
theorem map_instruction (o : Outcome Refusal (Option Word)) :
    (o.map fun last ↦ last.map fun w ↦ (w.toNat : Int)).map instruction = o.map .instruction := by
  have same (last : Option Word) :
      instruction (last.map fun w ↦ (w.toNat : Int)) = .instruction last := by
    cases last with
    | none => rfl
    | some w => exact congrArg (Reply.instruction ∘ some) (Word.ofInt_toNat w)
  obtain ⟨machine, answer, log⟩ := o
  cases answer with
  | ok last => exact congrArg (fun r ↦ Outcome.mk machine (.ok r) log) (same last)
  | error r => rfl

/-- An instruction of a host is answered by the word it was. -/
theorem map_instruction_some (o : Outcome Refusal Word) :
    (o.map fun w ↦ (w.toNat : Int)).map (fun w ↦ instruction (some w)) =
      o.map (.instruction ∘ some) := by
  obtain ⟨machine, answer, log⟩ := o
  cases answer with
  | ok w =>
    exact congrArg (fun w ↦ Outcome.mk machine (.ok (Reply.instruction (some w))) log)
      (Word.ofInt_toNat w)
  | error r => rfl

/-- **A command does to the numbers what it does to the machine**, whether it is refused or not. -/
theorem run_perform (c : Command) : (perform m.setup.origin c).run m.bare = (m.perform c).bare := by
  cases c with
  | reset now =>
    rw [perform, EStateM.run_bind, Machine.run_reset_bare]
    rfl
  | load values => exact run_map (run_loadValues m values) fun _ ↦ Reply.done
  | loadProgram values now =>
    have loaded := run_loadValues (m.reset now).machine values
    rw [perform, EStateM.run_bind, Machine.run_reset_bare]
    exact run_map loaded fun _ ↦ Reply.done
  | step now =>
    rw [Machine.perform, ← map_instruction]
    exact run_map (run_step m now) instruction
  | executeNext =>
    rw [Machine.perform, ← map_instruction]
    exact run_map (run_executeNext m) instruction
  | execute word =>
    rw [Machine.perform, ← map_instruction_some]
    exact run_map (run_execute m word) fun w ↦ instruction (some w)
  | advanceTimers elapsed => exact run_map (run_advanceTimers m elapsed) Reply.ticks
  | keyDown i =>
    refine run_edit rfl ?_ (run_turn m.state m.last true i)
    rw [Keypad.press, Fault.map_map, Fault.map_map]
  | keyUp i =>
    refine run_edit rfl ?_ (run_turn m.state m.last false i)
    rw [Keypad.release, Fault.map_map, Fault.map_map]
  | setRegister i value =>
    refine run_edit rfl ?_ (run_setV_of_host m.state m.last i value)
    rw [Fault.map_map]
  | writeMemory address values =>
    refine run_edit rfl ?_ (run_writeBytes m.state m.last address values)
    rw [Fault.map_map]
  | setPixel x y lit =>
    refine run_edit rfl ?_ (run_setPixel m.state m.last x y lit)
    rw [Fault.map_map]
  | flipPixel x y =>
    refine run_edit rfl ?_ (run_flip m.state m.last x y)
    rw [Fault.map_map]
  | setPc value => exact run_edit (g := .ok ((), _)) rfl rfl (run_setPc m.state m.last value)
  | setIndex value => exact run_edit (g := .ok ((), _)) rfl rfl (run_setIndex m.state m.last value)
  | clearScreen => exact run_edit (g := .ok ((), _)) rfl rfl (run_clearScreen m.state m.last)
  | setDelay value | setSound value | markDirty | clearDrawPending =>
    exact run_edit (g := .ok ((), _)) rfl rfl rfl

/-- A session does to the numbers what it does to the machine. -/
theorem after_bare (cs : List Command) :
    State.after m.setup.origin m.bare cs = (m.after cs).bare := by
  induction cs generalizing m with
  | nil => rfl
  | cons c cs ih =>
    have first : Access.left ((perform m.setup.origin c).run m.bare) =
        (m.perform c).machine.bare := by
      rw [run_perform, Outcome.left_bare]
    have rest := ih (m.perform c).machine
    rw [Machine.setup_perform] at rest
    rw [State.after, List.foldl_cons, first]
    exact rest

end Bare

/-- **Every machine that a host can come to is well-formed as plain numbers**, also while observers
come and go. -/
theorem Machine.Reachable.wellFormed_bare {m : Machine} (h : m.Reachable) : m.bare.WellFormed := by
  induction h with
  | powerOn setup random now =>
    rw [Machine.bare_powerOn]
    exact Bare.State.wellFormed_powerOn setup random now
  | @perform m h c ih =>
    have kept := ih.perform m.setup.origin c
    rw [Bare.run_perform, Outcome.left_bare] at kept
    exact kept
  | observe h tracer ih => exact ih

namespace Bare

/-- **After every session the numbers are in range**, and they are those of the machine, whoever
observes it: sixteen registers that hold bytes, an index register and a program counter that hold
words, as many cells, slots, rows, columns and keys as ever, a live part of the call stack that
fits, counters that are bytes, and a register for a key just while the machine waits for one. -/
theorem wellFormed_of_session (setup : Setup) (random : RandomSource) (now : Int)
    (tracer : Tracer Event) (cs : List Command) :
    ((powerOn setup random now).after setup.origin cs).WellFormed ∧
      (powerOn setup random now).after setup.origin cs =
        (({ (Machine.powerOn setup random now).machine with tracer } : Machine).after cs).bare := by
  refine ⟨(State.wellFormed_powerOn setup random now).after setup.origin cs, ?_⟩
  -- Observers are not among the numbers.
  have start : ({ (Machine.powerOn setup random now).machine with tracer } : Machine).bare =
      Bare.powerOn setup random now := Machine.bare_powerOn setup random now
  have session := after_bare { (Machine.powerOn setup random now).machine with tracer } cs
  rw [start] at session
  exact session

/-- A session with numbers that are out of range; its last two commands are refused. -/
example :
    let s := (powerOn ⟨17, by decide, 0x200, false⟩ (.cycle ⟨0, [], [], 0⟩) 0).after 0x200
      [.setDelay 300, .setIndex 70000, .writeMemory 0x300 [-1, 0x107], .setIndex 0x300,
        .execute 0xF165, .execute (-0x10000 + 0xF30A), .setRegister (-1) 5,
        .writeMemory 0xFFF [1, 2]]
    s.registers.take 2 = [255, 7] ∧ s.timers.delay = 44 ∧ s.cells.length = 4096 ∧
      s.waitRegister = some 3 := by
  decide +kernel

end Bare

end Chip8
