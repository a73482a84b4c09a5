import Chip8.Host.Clock
import Chip8.Host.Pace
import Chip8.Host.Request
import Chip8.Host.Sheet

/-!
# Sessions

A host at work: a machine with the clock that the host moves and the sheets that it has taken. Every
operation of a session answers or says why it was refused, and leaves a session behind.

A session is a machine's run of commands as long as the period of the timers is an integer. A host
may set it to anything else without a check; from then on the session keeps the pace of the timers
for the machine (`Session.pace`), and the step of the machine is taken in its two halves.
-/

namespace Chip8.Host

/-- A machine with what its host has beside it. -/
structure Session where
  machine : Machine
  clock : Clock
  /-- The pace of the timers, if it is not the one of the machine. -/
  pace : Option Pace
  /-- The sheets that were taken, by name, the latest first. -/
  sheets : List (Json × Sheet)

/-- What an operation of a session leaves behind. -/
structure Response (α : Type) where
  session : Session
  answer : Except Error α
  log : List LogEntry

/-- The response with another answer. -/
def Response.map {α β : Type} (f : α → β) (r : Response α) : Response β :=
  { r with answer := r.answer.map f }

namespace Session

variable {α : Type}

/-- An answer that leaves the session as it is. -/
def answer (s : Session) (a : Except Error α) : Response α := ⟨s, a, []⟩

/-- An operation of the machine. -/
def onMachine (s : Session) (o : Outcome Refusal α) : Response α :=
  ⟨{ s with machine := o.machine }, o.answer.mapError .ofRefusal, o.log⟩

/-- An operation that is refused if there is something wrong with its argument. -/
def given {β : Type} (s : Session) (a : Except Error β) (f : β → Response α) : Response α :=
  match a with
  | .ok v => f v
  | .error e => s.answer (.error e)

/-- Performs a command. -/
def perform (s : Session) (c : Except Error Command) : Response Reply :=
  s.given c fun c ↦ s.onMachine (s.machine.perform c)

/-! ### Time -/

/-- The pace of the timers. -/
def currentPace (s : Session) : Pace := s.pace.getD (.ofTimers s.machine.state.timers)

/-- The session with other timers in its machine. -/
def withTimers (s : Session) (timers : Timers) : Session :=
  { s with machine := s.machine.withState { s.machine.state with timers } }

/-- Sets the period of the timers to anything. The machine keeps the pace itself if it can. -/
def setPeriod (s : Session) (period : Json) : Session :=
  let baseline := s.currentPace.baseline
  match period, baseline with
  | .number (.int period), .int baseline =>
    { s.withTimers { s.machine.state.timers with period, baseline } with pace := none }
  | period, baseline => { s with pace := some { period, baseline } }

/-- The session after some ticks at a pace. -/
def tick (s : Session) (ticks : Int) (pace : Pace) : Session :=
  { s with
    machine := s.machine.tick ticks (s.machine.state.timers.take ticks)
    pace := some pace }

/-- Executes one instruction and takes the ticks up to a clock reading at a pace. Without a reading
the instruction is completed all the same, and the counters have decayed if it is only the baseline
that cannot be moved. -/
def stepAt (s : Session) (pace : Pace) (now : Except Error Int) : Response (Option Word) :=
  let o := s.machine.attempt
  let s := { s with machine := o.machine }
  match o.answer with
  | .error f => ⟨s, .error (.ofFault f), o.log⟩
  | .ok last =>
    match now >>= pace.ticksUpTo with
    | .error e => ⟨s, .error e, o.log⟩
    | .ok ticks =>
      match pace.move ticks with
      | .error e => ⟨s.withTimers (s.machine.state.timers.take ticks), .error e, o.log⟩
      | .ok pace => ⟨s.tick ticks pace, .ok last, o.log⟩

/-- A step at what the clock shows. -/
def stepNow (s : Session) : Response (Option Word) :=
  match s.pace, s.clock.now with
  | none, .ok now => s.onMachine (s.machine.step now)
  | _, now => s.stepAt s.currentPace now

/-- Moves the clock. -/
def moveClock (s : Session) (span : Json) : Except Error Session := do
  return { s with clock := ← s.clock.move span }

/-- Moves the clock and takes a step. -/
def step (s : Session) (span : Json) : Response (Option Word) :=
  s.given (s.moveClock span) stepNow

/-- Takes the ticks of a duration. -/
def advanceTimers (s : Session) (elapsed : Json) : Response Int :=
  s.given (number elapsed) fun elapsed ↦
    match s.pace with
    | none => s.onMachine (s.machine.advanceTimers elapsed)
    | some pace =>
      s.given (pace.ticks elapsed) fun ticks ↦ (s.tick ticks pace).answer (.ok ticks)

/-- The session after its machine took a clock reading as the baseline. -/
def rebased (s : Session) (o : Outcome Refusal Unit) : Response Unit :=
  let r := s.onMachine o
  let baseline : Number := .int o.machine.state.timers.baseline
  match s.pace, o.answer with
  | some pace, .ok () => { r with session.pace := some { pace with baseline } }
  | _, _ => r

/-- Resets the machine. Without a clock reading the reset ends where the baseline would be taken. -/
def reset (s : Session) : Response Unit :=
  match s.clock.now with
  | .ok now => s.rebased ((s.machine.reset now).mapError .fault)
  | .error e =>
    let state := s.machine.state.clear s.machine.setup.origin
    { s with machine := s.machine.withState state }.answer (.error e)

/-- Resets the machine and loads a program. The baseline is taken even if the program is
refused. -/
def loadProgram (s : Session) (data : Json) : Response Unit :=
  s.given (bytes data) fun image ↦
    let r := s.reset
    match r.answer with
    | .error _ => r
    | .ok () =>
      let loaded := r.session.onMachine ((r.session.machine.load image).mapError .fault)
      { loaded with log := r.log ++ loaded.log }

/-! ### Observation -/

/-- What a debugger sees of the machine. -/
def sheet (s : Session) : Sheet :=
  { Sheet.ofSnapshot (.ofState s.machine.state) with period := s.currentPace.period }

/-- A name for a sheet, which can be anything but a collection. -/
def sheetName (j : Json) : Except Error Json :=
  match j with
  | .array _ => .error .wrongKind
  | .object _ => .error .wrongKind
  | j => .ok j

/-- Takes a sheet under a name. -/
def keepSheet (s : Session) (name : Json) : Except Error Session := do
  let name ← sheetName name
  return { s with sheets := (name, s.sheet) :: s.sheets }

/-- The latest sheet of a name. -/
def sheet? (s : Session) (name : Json) : Option Sheet :=
  (s.sheets.find? fun (n, _) ↦ n.equals name).map (·.2)

/-- The differences between the sheets of two names. The second has to be there. -/
def compare (s : Session) (before after : Json) : Except Error (Snapshot.Diff Json) := do
  let before ← sheetName before
  let after ← sheetName after
  match s.sheet? after with
  | some after => return Sheet.diffFrom (s.sheet? before) after
  | none => throw .noSheet

/-! ### A machine that keeps its own pace -/

/-- With an integer period nothing but a machine takes a step. -/
theorem stepNow_of_pace_eq_none {s : Session} {now : Int} (own : s.pace = none)
    (reads : s.clock.now = .ok now) : s.stepNow = s.onMachine (s.machine.step now) := by
  unfold stepNow
  rw [own, reads]

end Session

end Chip8.Host
