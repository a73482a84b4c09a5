import Chip8.Instr.Disassembly
import Chip8.Machine.Microcode
import Chip8.Trace.Tracer

/-!
# The machine

A machine is a state together with how it was set up, the word that it last executed and the
observers that it reports to. Every operation of a host is a function to an `Outcome`: the machine
after it, its answer or the reason of its refusal, and the lines that it wrote to the log.

An instruction is executed by running its microcode (`Machine.act`), so a machine that was refused
something is the machine at the point of the fault; nothing is rolled back. Observers are only
reported to if there are any (`Machine.notify`).

`Machine.step` executes one instruction and then lets the timers decay by the time that has passed.
A step that is refused takes no time: the next one that is completed makes up for it. Clock readings
are arguments, in whole milliseconds, so a machine has no clock of its own.
-/

namespace Chip8

/-- How a machine is set up. -/
structure Setup where
  /-- Milliseconds per tick of the timers. -/
  period : Int
  period_pos : 0 < period
  /-- Where programs are loaded and started. -/
  origin : Int
  /-- Whether every instruction is written to the log. -/
  traceInstructions : Bool
  deriving DecidableEq

/-- A machine under the control of a host. -/
structure Machine where
  setup : Setup
  state : State
  /-- The word that was last executed, whether it was completed or not. -/
  last : Option Word
  tracer : Tracer Event
  deriving DecidableEq

/-- Why a machine refused an operation. -/
inductive Refusal
  | fault (f : Fault)
  | timer (e : Timers.Error)
  /-- A number of a program is no byte. -/
  | notAByte (value : Int)
  deriving DecidableEq, Repr

/-- What an operation leaves behind. -/
structure Outcome (ε α : Type) where
  machine : Machine
  /-- What the operation answers, or why it was refused. -/
  answer : Except ε α
  /-- The lines that it wrote to the log, in order. -/
  log : List LogEntry

namespace Outcome

variable {ε ε' α β : Type}

/-- The outcome with another answer. -/
def map (f : α → β) (o : Outcome ε α) : Outcome ε β := { o with answer := o.answer.map f }

/-- The outcome with another reason of refusal. -/
def mapError (f : ε → ε') (o : Outcome ε α) : Outcome ε' α :=
  { o with answer := o.answer.mapError f }

end Outcome

namespace Machine

/-- The machine with another state. -/
def withState (m : Machine) (state : State) : Machine := { m with state }

/-- Hands an event to the observers. -/
def emit (m : Machine) (e : Event) : Machine := { m with tracer := m.tracer.emit e }

/-- Reports an event, if there is an observer. -/
def notify (m : Machine) (e : Event) : Machine := if m.tracer.hasObservers then m.emit e else m

/-- The machine after an effect. -/
def apply (m : Machine) (e : Effect) : Machine := e.events.foldl emit (m.withState e.state)

/-- Runs an action on the state. What it did takes effect, also if it ended with a fault. -/
def act {α : Type} (m : Machine) (a : Action α) : Outcome Fault α :=
  match a.run ⟨m.state, m.tracer, []⟩ with
  | .ok v a => ⟨{ m with state := a.state, tracer := a.tracer }, .ok v, a.log⟩
  | .error f a => ⟨{ m with state := a.state, tracer := a.tracer }, .error f, a.log⟩

/-- With nobody to report to there is nothing to hand out. -/
theorem notify_eq_emit (m : Machine) (e : Event) : m.notify e = m.emit e := by
  rw [emit, ← Tracer.emit_of_hasObservers, notify, emit]
  split
  · rfl
  · rfl

/-- Observers see a machine and do not change it. -/
@[simp] theorem state_emit (m : Machine) (e : Event) : (m.emit e).state = m.state := rfl

@[simp] theorem setup_emit (m : Machine) (e : Event) : (m.emit e).setup = m.setup := rfl

@[simp] theorem last_emit (m : Machine) (e : Event) : (m.emit e).last = m.last := rfl

/-- Reporting several events leaves everything but the tracer alone. -/
theorem foldl_emit (m : Machine) (es : List Event) :
    es.foldl emit m = { m with tracer := es.foldl Tracer.emit m.tracer } := by
  induction es generalizing m with
  | nil => rfl
  | cons e es ih => exact ih (m.emit e)

@[simp] theorem state_apply (m : Machine) (e : Effect) : (m.apply e).state = e.state := by
  rw [apply, foldl_emit]
  rfl

@[simp] theorem setup_apply (m : Machine) (e : Effect) : (m.apply e).setup = m.setup := by
  rw [apply, foldl_emit]
  rfl

@[simp] theorem last_apply (m : Machine) (e : Effect) : (m.apply e).last = m.last := by
  rw [apply, foldl_emit]
  rfl

/-! ### Starting and loading -/

/-- Puts the state back to power-on values and forgets the last instruction. Observers stay. -/
def reset (m : Machine) (now : Int) : Outcome Fault Unit :=
  let state := m.state.reset m.setup.origin now
  ⟨{ m with state, last := none }, .ok (), [.reset state.pc.toNat]⟩

/-- A machine that was just switched on, at the clock reading `now`. -/
def powerOn (setup : Setup) (random : RandomSource) (now : Int) : Outcome Fault Unit :=
  let timers : Timers := ⟨setup.period, 0, 0, 0⟩
  reset ⟨setup, .powerOn timers random setup.origin now, none, .empty⟩ now

/-- Writes a program to memory at the origin. -/
def load (m : Machine) (image : List Byte) : Outcome Fault Unit :=
  m.act (Action.load image m.setup.origin)

/-- Resets the machine and loads a program; the reset stays even if the program is refused. -/
def loadProgram (m : Machine) (image : List Byte) (now : Int) : Outcome Fault Unit :=
  let r := m.reset now
  let o := r.machine.load image
  { o with log := r.log ++ o.log }

/-- Writes a program that is given as a list of numbers to memory. Each number has to be a byte. -/
def loadValues (m : Machine) (values : List Int) : Outcome Refusal Unit :=
  match Memory.stray? values with
  | some v => ⟨m, .error (.notAByte v), []⟩
  | none => (m.load (values.map Byte.ofInt)).mapError .fault

/-- Resets the machine and loads a program that is given as a list of numbers. -/
def loadProgramValues (m : Machine) (values : List Int) (now : Int) : Outcome Refusal Unit :=
  let r := m.reset now
  let o := r.machine.loadValues values
  { o with log := r.log ++ o.log }

/-! ### Executing -/

/-- Executes a word as if it stood at the program counter. The word is remembered, and reported if
it is an instruction, before it is known whether it can be completed. -/
def execute (m : Machine) (w : Word) : Outcome Fault Word :=
  let pc : Int := m.state.pc.toNat
  let m := { m with last := some w }
  match decode w with
  | none => ⟨m, .error (.unknownInstruction w.toNat (some pc)), []⟩
  | some i =>
    let log := if m.setup.traceInstructions then [.instruction pc w.toNat i.text] else []
    let m := m.notify (.instruction pc w.toNat i.text)
    let o := m.act do
      i.microcode
      Action.change State.tally
    { o.map fun _ ↦ w with log := log ++ o.log }

/-- Executes the word at the program counter or, while the machine waits for a key, looks for one.
The answer is the last instruction. -/
def executeNext (m : Machine) : Outcome Fault (Option Word) :=
  match m.state.mode with
  | .waitingForKey => (m.act Action.retryKey).map fun _ ↦ m.last
  | .running =>
    match m.state.memory.readWord m.state.pc.toNat with
    | .error f => ⟨m, .error f, []⟩
    | .ok w => (m.execute w).map some

/-- The machine with timers that took some ticks; ticks are reported unless there were none. -/
def tick (m : Machine) (ticks : Int) (timers : Timers) : Machine :=
  let m := m.withState { m.state with timers }
  if ticks = 0 then m else m.notify (.timerTick ticks timers.delay timers.sound)

/-- Executes one instruction, the first half of a step. A fault is reported and written to the
log. -/
def attempt (m : Machine) : Outcome Fault (Option Word) :=
  let o := m.executeNext
  match o.answer with
  | .error f =>
    let pc : Int := o.machine.state.pc.toNat
    ⟨o.machine.notify (.fault pc f), .error f, o.log ++ [.stepAborted pc f]⟩
  | .ok _ => o

/-- Executes one instruction and then takes the ticks up to the clock reading `now`. -/
def step (m : Machine) (now : Int) : Outcome Refusal (Option Word) :=
  let o := m.attempt
  match o.answer with
  | .error f => ⟨o.machine, .error (.fault f), o.log⟩
  | .ok last =>
    match o.machine.state.timers.sample now with
    | .error e => ⟨o.machine, .error (.timer e), o.log⟩
    | .ok (ticks, timers) => ⟨o.machine.tick ticks timers, .ok last, o.log⟩

/-- Takes the ticks of a duration and answers how many there were. -/
def advanceTimers (m : Machine) (elapsed : Number) : Outcome Refusal Int :=
  match m.state.timers.advance elapsed with
  | .error e => ⟨m, .error (.timer e), []⟩
  | .ok (ticks, timers) => ⟨m.tick ticks timers, .ok ticks, []⟩

/-! ### What a host changes from outside -/

/-- Holds a key down. -/
def keyDown (m : Machine) (i : Int) : Outcome Fault Unit :=
  m.act (Action.onKeypad (Keypad.pressing i))

/-- Lets a key go. -/
def keyUp (m : Machine) (i : Int) : Outcome Fault Unit :=
  m.act (Action.onKeypad (Keypad.releasing i))

/-- Sets one of the registers `V0` to `VF`. -/
def setRegister (m : Machine) (i value : Int) : Outcome Fault Unit :=
  m.act (Action.onRegisters (Registers.writing i value))

/-- Sets the program counter. -/
def setPc (m : Machine) (value : Int) : Outcome Fault Unit :=
  m.act (Action.change (·.setPc (Word.ofInt value)))

/-- Sets the index register. -/
def setIndex (m : Machine) (value : Int) : Outcome Fault Unit :=
  m.act (Action.change (·.setIndex (Word.ofInt value)))

/-- Sets the delay counter. -/
def setDelay (m : Machine) (value : Int) : Outcome Fault Unit :=
  m.act (Action.change fun s ↦ { s with timers := s.timers.setDelay value })

/-- Sets the sound counter. -/
def setSound (m : Machine) (value : Int) : Outcome Fault Unit :=
  m.act (Action.change fun s ↦ { s with timers := s.timers.setSound value })

/-- Sets the period of the timers, without a check. -/
def setPeriod (m : Machine) (period : Int) : Outcome Fault Unit :=
  m.act (Action.change fun s ↦ { s with timers := { s.timers with period } })

/-- Writes the bytes congruent to some numbers to memory. -/
def writeMemory (m : Machine) (address : Int) (values : List Int) : Outcome Fault Unit :=
  m.act (Action.writeBytes address (values.map Byte.ofInt))

/-- Sets a pixel. -/
def setPixel (m : Machine) (x y : Int) (lit : Bool) : Outcome Fault Unit :=
  m.act (Action.onScreen (Screen.setting x y lit))

/-- Toggles a pixel and answers its new state. -/
def flipPixel (m : Machine) (x y : Int) : Outcome Fault Bool := m.act (Action.flip x y)

/-- Blanks the screen. -/
def clearScreen (m : Machine) : Outcome Fault Unit :=
  m.act (Action.change fun s ↦ { s with screen := s.screen.clear })

/-- Marks the screen as not shown. -/
def markDirty (m : Machine) : Outcome Fault Unit :=
  m.act (Action.change fun s ↦ { s with screen := s.screen.markDirty })

/-- Marks the screen as shown. -/
def clearDrawPending (m : Machine) : Outcome Fault Unit :=
  m.act (Action.change fun s ↦ { s with screen := s.screen.clearDirty })

/-- Whether something was drawn that the host has not shown. -/
def isDrawPending (m : Machine) : Bool := m.state.screen.dirty

/-- Registers an observer. -/
def register (m : Machine) (o : Observer) : Machine := { m with tracer := m.tracer.register o }

/-- Takes an observer out. -/
def unregister (m : Machine) (o : Observer) : Machine := { m with tracer := m.tracer.unregister o }

end Machine

end Chip8
