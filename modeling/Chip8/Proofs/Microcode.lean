import Chip8.Machine.Basic

/-!
# What microcode comes to

A machine runs an instruction action by action (`Instr.microcode`), and an action that ends with a
fault keeps what was done before. `State.exec` says what an instruction comes to as one function of
the state. This module ties the two together.

* `Instr.run_microcode`: if `State.exec` has an effect, running the microcode leaves exactly that
  effect; if it has a fault, running the microcode ends with that fault and with the state, the
  observers and the log that it started with.
* `Action.run_pollKey_of_key` and `Action.run_pollKey_of_waiting` are the same for the key that is
  waited for.
* `Machine.execute_cases`, in the next module, is what this comes to for a machine.

The second half of the first statement is where the order of actions counts: every check of an
instruction comes before its first write. Drawing is the long case. Its flips are checked one by
one, but their coordinates are reduced first, so none of them is refused (`Action.run_flip`), and
what they do pixel by pixel is what `Screen.toggleAll` does to the list of all pixels.

The events of an effect are handed to the observers one after the other (`Tracer.report`). Microcode
asks first whether there is an observer, which comes to the same (`Action.run_report`).
-/

namespace Chip8

namespace Activity

/-- The activity with another state. -/
def withState (a : Activity) (state : State) : Activity := { a with state }

@[simp] theorem state_withState (a : Activity) (s : State) : (a.withState s).state = s := rfl

@[simp] theorem withState_withState (a : Activity) (s t : State) :
    (a.withState s).withState t = a.withState t := rfl

@[simp] theorem withState_mk (s u : State) (t : Tracer Event) (log : List LogEntry) :
    (mk s t log).withState u = ⟨u, t, log⟩ := rfl

end Activity

/-- Events handed to the observers one after the other. -/
def Tracer.report {ε : Type} (t : Tracer ε) (es : List ε) : Tracer ε := es.foldl emit t

/-! ### Toggling a list of pixels -/

namespace Screen

variable {width height : Nat}

/-- Pixels can be toggled in two portions. -/
theorem toggleAll_append (s : Screen width height) (ps qs : List (Fin width × Fin height)) :
    s.toggleAll (ps ++ qs) =
      (((s.toggleAll ps).1.toggleAll qs).1,
        (s.toggleAll ps).2 || ((s.toggleAll ps).1.toggleAll qs).2) := by
  induction ps generalizing s with
  | nil => simp [toggleAll]
  | cons p ps ih =>
    obtain ⟨x, y⟩ := p
    simp only [List.cons_append, toggleAll, ih, Bool.or_assoc]

end Screen

namespace Action

variable {α : Type}

/-! ### Running the simple actions -/

@[simp] theorem run_state (a : Activity) : state.run a = .ok a.state a := rfl

@[simp] theorem run_change (f : State → State) (a : Activity) :
    (change f).run a = .ok () (a.withState (f a.state)) := rfl

@[simp] theorem run_advance (a : Activity) :
    advance.run a = .ok () (a.withState a.state.advance) := rfl

/-- **Reporting hands the event to the observers**; to ask first whether there are any makes no
difference. -/
@[simp] theorem run_report (event : Event) (a : Activity) :
    (report event).run a = .ok () { a with tracer := a.tracer.report [event] } := by
  have asked : a.tracer.report [event] =
      if a.tracer.hasObservers then a.tracer.emit event else a.tracer :=
    (a.tracer.emit_of_hasObservers event).symm
  rw [asked]
  simp only [report, EStateM.run_bind, EStateM.run_get]
  split
  · rfl
  · rfl

@[simp] theorem run_note (entry : LogEntry) (a : Activity) :
    (note entry).run a = .ok () { a with log := a.log ++ [entry] } := rfl

/-! ### Accesses to a part -/

/-- **An access to a part changes that part and nothing else**; one that is refused and has not
changed the part has changed nothing. -/
theorem run_within {σ : Type} {part : State → σ} {put : σ → State → State} {x : Access Fault σ α}
    {r : Except Fault (α × σ)} {a : Activity} (same : put (part a.state) a.state = a.state)
    (run : x.run (part a.state) = Access.ending (part a.state) r) :
    (within part put x).run a =
      Access.ending a (r.map fun p ↦ (p.1, a.withState (put p.2 a.state))) := by
  rw [run_within_eq, run]
  cases r with
  | ok p => rfl
  | error f =>
    show EStateM.Result.error f (a.withState (put (part a.state) a.state)) = .error f a
    rw [same]
    rfl

/-! ### Memory, registers and call stack -/

/-- Reading bytes changes nothing, whether it is refused or not. -/
theorem run_readBytes (address count : Int) (a : Activity) :
    (readBytes address count).run a =
      match a.state.memory.readBytes address count with
      | .ok bytes => .ok bytes a
      | .error f => .error f a := by
  simp only [readBytes, EStateM.run_bind, run_state]
  cases a.state.memory.readBytes address count with
  | ok bytes => rfl
  | error f => rfl

/-- Writing bytes is the write of memory; a refused write has changed nothing. -/
theorem run_writeBytes (address : Int) (bytes : List Byte) (a : Activity) :
    (writeBytes address bytes).run a =
      match a.state.memory.writeBytes address bytes with
      | .ok memory => .ok () (a.withState { a.state with memory })
      | .error f => .error f a := by
  rw [writeBytes, onMemory, run_within rfl (a.state.memory.run_writing address bytes)]
  cases a.state.memory.writeBytes address bytes with
  | ok memory => rfl
  | error f => rfl

/-- Loading a program is the load of memory, with a line in the log; a refused program has changed
nothing. -/
theorem run_load (image : List Byte) (origin : Int) (a : Activity) :
    (load image origin).run a =
      match a.state.memory.load image origin with
      | .ok memory =>
        .ok () { a.withState { a.state with memory } with
          log := a.log ++ [.loaded image.length origin] }
      | .error f => .error f a := by
  rw [load, EStateM.run_bind, onMemory,
    run_within rfl (a.state.memory.run_loading image origin)]
  cases a.state.memory.load image origin with
  | ok memory => rfl
  | error f => rfl

/-- Registers that are filled one after the other are filled at once. -/
theorem run_putV (i : Nat) (bytes : List Byte) (a : Activity) :
    (putV i bytes).run a = .ok () (a.withState (a.state.putV i bytes)) := by
  induction bytes generalizing i a with
  | nil => rfl
  | cons b bs ih =>
    by_cases h : i < 16
    · simp [putV, State.putV, h, ih]
    · simp [putV, State.putV, h, ih]

/-- Pushing an address is the push of the call stack; a refused push has changed nothing. -/
theorem run_push (address pc : Int) (a : Activity) :
    (push address pc).run a =
      match a.state.stack.push address pc with
      | .ok stack => .ok () (a.withState { a.state with stack })
      | .error f => .error f a := by
  rw [push, onStack, run_within rfl (a.state.stack.run_pushing address pc)]
  cases a.state.stack.push address pc with
  | ok stack => rfl
  | error f => rfl

/-- So is taking one its pop. -/
theorem run_pop (pc : Int) (a : Activity) :
    (pop pc).run a =
      match a.state.stack.pop pc with
      | .ok (target, stack) => .ok target (a.withState { a.state with stack })
      | .error f => .error f a := by
  rw [pop, onStack, run_within rfl (a.state.stack.run_popping pc)]
  cases a.state.stack.pop pc with
  | ok r => rfl
  | error f => rfl

/-! ### Sprites -/

/-- The pixel of the machine's screen at some coordinates, which wrap round at the edges. -/
def pixel (x y : Nat) : Fin Screen.standardWidth × Fin Screen.standardHeight :=
  Screen.wrap Screen.width_pos Screen.height_pos x y

/-- The pixels of a sprite on the machine's screen. -/
def spritePixels (left top : Nat) (rows : List Byte) :
    List (Fin Screen.standardWidth × Fin Screen.standardHeight) :=
  Screen.spritePixels Screen.width_pos Screen.height_pos left top rows

/-- **A flip at reduced coordinates is never refused.** -/
theorem run_flip (x y : Nat) (a : Activity) :
    (flip (x % Screen.standardWidth : Nat) (y % Screen.standardHeight : Nat)).run a =
      .ok (!a.state.screen.lit (pixel x y).1 (pixel x y).2)
        (a.withState { a.state with
          screen := a.state.screen.modify (pixel x y).1 (pixel x y).2 not }) := by
  have h :
      a.state.screen.flip (x % Screen.standardWidth : Nat) (y % Screen.standardHeight : Nat) = _ :=
    a.state.screen.flip_val (pixel x y).1 (pixel x y).2
  rw [flip, onScreen, run_within rfl (a.state.screen.run_flipping _ _), h]
  rfl

/-- The pixels under the set bits at some offsets of a sprite row. -/
def rowPixels (left top : Nat) (row : Byte) (cs : List Nat) :
    List (Fin Screen.standardWidth × Fin Screen.standardHeight) :=
  (cs.filter row.getMsbD).map fun c ↦ pixel (left + c) top

/-- Flipping a row offset by offset toggles its pixels. -/
theorem run_flipRow (left top : Nat) (row : Byte) (cs : List Nat) (erased : Bool) (a : Activity) :
    (flipRow left top row cs erased).run a =
      .ok (erased || (a.state.screen.toggleAll (rowPixels left top row cs)).2)
        (a.withState { a.state with
          screen := (a.state.screen.toggleAll (rowPixels left top row cs)).1 }) := by
  induction cs generalizing erased a with
  | nil => simp [flipRow, rowPixels, Screen.toggleAll, Activity.withState]
  | cons c cs ih =>
    by_cases h : row.getMsbD c = true
    · have hp : rowPixels left top row (c :: cs) =
          pixel (left + c) top :: rowPixels left top row cs := by
        simp [rowPixels, h]
      simp only [flipRow, h, if_true, EStateM.run_bind, run_flip, ih, hp, Screen.toggleAll,
        Activity.state_withState, Activity.withState_withState, Bool.not_not, Bool.or_assoc]
    · have hp : rowPixels left top row (c :: cs) = rowPixels left top row cs := by
        simp [rowPixels, h]
      simp only [flipRow, h, Bool.false_eq_true, if_false, ih, hp]

/-- Flipping a sprite row by row toggles its pixels. -/
theorem run_flipRows (left top : Nat) (rows : List Byte) (erased : Bool) (a : Activity) :
    (flipRows left top rows erased).run a =
      .ok (erased || (a.state.screen.toggleAll (spritePixels left top rows)).2)
        (a.withState { a.state with
          screen := (a.state.screen.toggleAll (spritePixels left top rows)).1 }) := by
  induction rows generalizing top erased a with
  | nil => simp [flipRows, spritePixels, Screen.spritePixels, Screen.toggleAll, Activity.withState]
  | cons row rows ih =>
    have hp : spritePixels left top (row :: rows) =
        rowPixels left top row (List.range Screen.spriteWidth) ++
          spritePixels left (top + 1) rows := rfl
    simp only [flipRows, EStateM.run_bind, run_flipRow, ih, hp, Screen.toggleAll_append,
      Activity.state_withState, Activity.withState_withState, Bool.or_assoc]

end Action

/-! ### Whole instructions -/

/-- How an action ends that started at a state with some observers and came to an effect or a fault:
with a fault it leaves the state as it was, and it has reported and logged nothing. -/
def Effect.ending (s : State) (t : Tracer Event) :
    Except Fault Effect → EStateM.Result Fault Activity Unit
  | .ok e => .ok () ⟨e.state, t.report e.events, e.log⟩
  | .error f => .error f ⟨s, t, []⟩

namespace State

/-- Two flags written one after the other leave the second. -/
theorem setFlag_setFlag (s : State) (a b : Bool) : (s.setFlag a).setFlag b = s.setFlag b := by
  simp [setFlag, setV, Registers.set]

/-- Two single steps past an instruction are one skip. -/
theorem advance_advance (s : State) : s.advance.advance = s.advanceSkipping true := by
  simp [advance, advanceSkipping, setPc, pc, BitVec.add_assoc]

end State

namespace Action

theorem run_ret (s : State) (t : Tracer Event) :
    ret.run ⟨s, t, []⟩ = Effect.ending s t (s.exec .ret) := by
  simp only [ret, EStateM.run_bind, run_state, run_pop, State.exec]
  cases s.stack.pop s.pc.toNat with
  | ok r =>
    simp only [run_change, run_report]
    rfl
  | error f => rfl

theorem run_call (s : State) (t : Tracer Event) (target : Target) :
    (call target).run ⟨s, t, []⟩ = Effect.ending s t (s.exec (.call target)) := by
  simp only [call, EStateM.run_bind, run_state, run_push, State.exec]
  cases s.stack.push (s.pc.toNat + 2) s.pc.toNat with
  | ok stack =>
    simp only [run_change, run_report]
    rfl
  | error f => rfl

theorem run_skipKey (s : State) (t : Tracer Event) (down : Bool) (x : RegIndex) :
    (skipKey down x).run ⟨s, t, []⟩ = Effect.ending s t (s.exec (.skipKey down x)) := by
  simp only [skipKey, EStateM.run_bind, run_state, State.exec]
  cases s.keypad.isDown (s.v x).toNat with
  | ok isDown =>
    show _ = EStateM.Result.ok () (Activity.mk (s.advanceSkipping (isDown == down)) t [])
    simp only [Access.run_check_ok]
    cases isDown == down with
    | true =>
      rw [← State.advance_advance]
      rfl
    | false => rfl
  | error f => rfl

/-- Drawing a sprite that could be read. -/
theorem draw_of_readBytes {s : State} {x y : RegIndex} {rows : Nat} {sprite : List Byte}
    {screen : Screen Screen.standardWidth Screen.standardHeight} {erased : Bool}
    (read : s.memory.readBytes s.index.toNat rows = .ok sprite)
    (toggled : s.screen.toggleAll (spritePixels (s.v x).toNat (s.v y).toNat sprite) =
      (screen, erased)) :
    s.draw x y rows =
      .ok ⟨(State.setFlag { s with screen := screen.markDirty } erased).advance,
        [.draw s.pc.toNat (s.v x).toNat (s.v y).toNat rows erased], []⟩ := by
  rw [spritePixels] at toggled
  rw [State.draw, read]
  show Except.ok _ = _
  rw [toggled]

theorem run_draw (s : State) (t : Tracer Event) (x y : RegIndex) (rows : Nat) :
    (draw x y rows).run ⟨s, t, []⟩ = Effect.ending s t (s.draw x y rows) := by
  simp only [draw, EStateM.run_bind, run_state, run_readBytes]
  cases read : s.memory.readBytes s.index.toNat rows with
  | error f =>
    rw [State.draw, read]
    rfl
  | ok sprite =>
    have screen_setFlag : (s.setFlag false).screen = s.screen := rfl
    simp only [run_change, run_flipRows, Activity.withState_mk, Bool.false_or, screen_setFlag]
    rcases toggled : s.screen.toggleAll
      (spritePixels (s.v x).toNat (s.v y).toNat sprite) with ⟨screen, erased⟩
    rw [draw_of_readBytes read toggled]
    cases erased with
    | false =>
      simp only [Bool.false_eq_true, if_false, EStateM.run_bind, run_change, run_state, run_report]
      rfl
    | true =>
      -- the flag is lowered first and raised at the end; only the second write is left
      have flags := State.setFlag_setFlag { s with screen := screen.markDirty } false true
      rw [← flags]
      simp only [if_true, EStateM.run_bind, run_change, run_state, run_report]
      rfl

theorem run_awaitKey (s : State) (t : Tracer Event) (x : RegIndex) :
    (awaitKey x).run ⟨s, t, []⟩ = Effect.ending s t (s.exec (.awaitKey x)) := by
  simp only [awaitKey, EStateM.run_bind, run_state, State.exec, State.awaitKey]
  cases s.keypad.highest? with
  | some key => rfl
  | none =>
    simp only [takeKey, EStateM.run_bind, run_change, run_state, run_note, run_report]
    rfl

/-- While there is no key, or no register for it, the wait goes on. -/
theorem run_pollKey_of_waiting {s : State} (idle : s.keypad.highest? = none ∨ s.waitRegister = none)
    (t : Tracer Event) : pollKey.run ⟨s, t, []⟩ = .ok false ⟨s, t, []⟩ := by
  simp only [pollKey, EStateM.run_bind, run_state]
  rcases idle with up | nowhere
  · rw [up]
    rfl
  · rw [nowhere]
    cases s.keypad.highest? with
    | none => rfl
    | some key => rfl

/-- **A key ends the wait.** -/
theorem run_pollKey_of_key {s : State} {x : RegIndex} {key : Fin 16}
    (down : s.keypad.highest? = some key) (register : s.waitRegister = some x)
    (t : Tracer Event) :
    pollKey.run ⟨s, t, []⟩ = .ok true
      ⟨(State.setV { s with mode := .running, waitRegister := none } x (BitVec.ofNat 8 key)).advance,
        t.report [.keyResume s.pc.toNat x.val key.val], [.keyResumed key.val x.val]⟩ := by
  simp only [pollKey, EStateM.run_bind, run_state, down, register, endWait, run_change, run_note,
    run_report, run_advance, EStateM.run_pure]
  rfl

end Action

/-- **Microcode comes to what `State.exec` says**, and to nothing at all if that is a fault. -/
theorem Instr.run_microcode (s : State) (t : Tracer Event) (i : Instr) :
    i.microcode.run ⟨s, t, []⟩ = Effect.ending s t (s.exec i) := by
  cases i with
  | clear => rfl
  | ret => exact Action.run_ret s t
  | jump target => rfl
  | call target => exact Action.run_call s t target
  | skipByte equal x nn => rfl
  | skipReg equal x y => rfl
  | skipKey down x => exact Action.run_skipKey s t down x
  | loadByte x nn => rfl
  | addByte x nn => rfl
  | alu op x y =>
    -- whether there is a flag to write depends on the operation
    cases op <;> rfl
  | loadIndex target => rfl
  | jumpOffset target => rfl
  | random x nn => rfl
  | draw x y rows => exact Action.run_draw s t x y rows
  | readDelay x => rfl
  | awaitKey x => exact Action.run_awaitKey s t x
  | setDelay x => rfl
  | setSound x => rfl
  | addIndex x => rfl
  | glyph x => rfl
  | digits x =>
    simp only [microcode, EStateM.run_bind, Action.run_state, Action.run_writeBytes,
      State.exec]
    cases s.memory.writeBytes s.index.toNat (Byte.digits (s.v x)) with
    | ok memory => rfl
    | error f => rfl
  | store x =>
    simp only [microcode, EStateM.run_bind, Action.run_state, Action.run_writeBytes,
      State.exec]
    cases s.memory.writeBytes s.index.toNat (s.registers.v.toList.take (x.val + 1)) with
    | ok memory => rfl
    | error f => rfl
  | fetch x =>
    simp only [microcode, EStateM.run_bind, Action.run_state, Action.run_readBytes,
      State.exec]
    cases s.memory.readBytes s.index.toNat (x.val + 1) with
    | ok bytes =>
      simp only [Action.run_putV]
      rfl
    | error f => rfl

end Chip8
