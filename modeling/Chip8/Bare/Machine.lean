import Chip8.Bare.Handler
import Chip8.Machine.Command

/-!
# Sessions on plain numbers

The operations of a host on a machine of plain numbers. An operation that is refused leaves what it
has changed until then, and the session goes on from there (`Bare.State.after`).
-/

namespace Chip8.Bare

/-! ### Starting and loading -/

/-- Puts every part back to its power-on value, but for the source of random bytes. -/
def reset (origin now : Int) : Action Unit := do
  resetMemory
  resetRegisters origin
  resetStack
  resetScreen
  resetKeys
  Access.change fun s ↦ { s with timers := s.timers.reset now }
  Access.change ({ · with mode := .running })
  Access.change ({ · with waitRegister := none })
  Access.change ({ · with last := none })
  Access.change ({ · with executed := 0 })

/-- The parts of a machine that was put together and not yet reset. -/
def State.initial (period : Int) (random : RandomSource) : State where
  registers := List.replicate 16 0
  index := 0
  pc := Memory.programOrigin
  cells := List.replicate Memory.standardSize 0
  slots := List.replicate 16 0
  pointer := 0
  pixels := List.replicate Screen.standardHeight (List.replicate Screen.standardWidth false)
  dirty := false
  keys := List.replicate 16 false
  timers := ⟨period, 0, 0, 0⟩
  mode := .running
  waitRegister := none
  last := none
  executed := 0
  random := random

/-- A machine that was just switched on, at the clock reading `now`. -/
def powerOn (setup : Setup) (random : RandomSource) (now : Int) : State :=
  Access.left ((reset setup.origin now).run (State.initial setup.period random))

/-! ### Executing -/

/-- Counts an instruction. -/
def count : Action Unit := Access.change fun s ↦ { s with executed := s.executed + 1 }

/-- Executes a word as if it stood at the program counter. -/
def execute (word : Int) : Action Int := do
  let pc := (← Access.part).pc
  let word := word % 65536
  Access.change ({ · with last := some word })
  match identify (Word.ofInt word) with
  | none => throw (.refused (.fault (.unknownInstruction word (some pc))))
  | some op =>
    handler (.ofWord word) op
    if (← Access.part).mode = .running then count
    return word

/-- Executes the word at the program counter or, while the machine waits for a key, looks for one.
The answer is the last instruction. -/
def executeNext : Action (Option Int) := do
  match (← Access.part).mode with
  | .waitingForKey =>
    if ← pollKey then count
    return (← Access.part).last
  | .running =>
    let word ← readWord (← Access.part).pc
    return some (← execute word)

/-- Executes one instruction and then takes the ticks up to the clock reading `now`. -/
def step (now : Int) : Action (Option Int) := do
  let last ← executeNext
  let _ ← passTime (·.sample now)
  return last

/-! ### Sessions -/

/-- What is answered for a word. -/
def instruction (word : Option Int) : Reply := .instruction (word.map Word.ofInt)

/-- Performs a command; programs are loaded at `origin`. -/
def perform (origin : Int) : Command → Action Reply
  | .reset now => do
    reset origin now
    return .done
  | .load values => do
    load values origin
    return .done
  | .loadProgram values now => do
    reset origin now
    load values origin
    return .done
  | .step now => return instruction (← step now)
  | .executeNext => return instruction (← executeNext)
  | .execute word => return instruction (some (← execute word))
  | .advanceTimers elapsed => return .ticks (← passTime (·.advance elapsed))
  | .keyDown i => do
    turn true i
    return .done
  | .keyUp i => do
    turn false i
    return .done
  | .setRegister i value => do
    setV i value
    return .done
  | .setPc value => do
    setPc value
    return .done
  | .setIndex value => do
    setIndex value
    return .done
  | .setDelay value => do
    Access.change fun s ↦ { s with timers := s.timers.setDelay value }
    return .done
  | .setSound value => do
    Access.change fun s ↦ { s with timers := s.timers.setSound value }
    return .done
  | .writeMemory address values => do
    writeBytes address values
    return .done
  | .setPixel x y lit => do
    setPixel x y lit
    return .done
  | .flipPixel x y => do
    let _ ← flip x y
    return .done
  | .clearScreen => do
    clearScreen
    return .done
  | .markDirty => do
    setDirty true
    return .done
  | .clearDrawPending => do
    setDirty false
    return .done

/-- The machine after a session; a command that is refused leaves what it has changed. -/
def State.after (origin : Int) (s : State) (cs : List Command) : State :=
  cs.foldl (fun s c ↦ Access.left ((perform origin c).run s)) s

end Chip8.Bare
