import Chip8.Machine.Basic

/-!
# Commands

The operations of a host on a machine as data, so that a session is a list of commands. Clock
readings are part of the commands that take them. `Machine.run` performs a session and keeps the
outcome of every command; nothing stops it, since a refused command leaves a machine that goes on.
-/

namespace Chip8

/-- An operation of a host. -/
inductive Command
  | reset (now : Int)
  | load (values : List Int)
  | loadProgram (values : List Int) (now : Int)
  | step (now : Int)
  | executeNext
  | execute (word : Int)
  | advanceTimers (elapsed : Number)
  | keyDown (i : Int)
  | keyUp (i : Int)
  | setRegister (i value : Int)
  | setPc (value : Int)
  | setIndex (value : Int)
  | setDelay (value : Int)
  | setSound (value : Int)
  | writeMemory (address : Int) (values : List Int)
  | setPixel (x y : Int) (lit : Bool)
  | flipPixel (x y : Int)
  | clearScreen
  | markDirty
  | clearDrawPending
  deriving DecidableEq

/-- What a command answers. -/
inductive Reply
  /-- Nothing but that it was done. -/
  | done
  /-- The last instruction, if there was one. -/
  | instruction (w : Option Word)
  /-- The number of ticks taken. -/
  | ticks (n : Int)
  deriving DecidableEq, Repr

namespace Machine

/-- The outcome of a command that can only run into a fault and whose answer is not passed on. -/
def plain {α : Type} (o : Outcome Fault α) : Outcome Refusal Reply :=
  (o.mapError .fault).map fun _ ↦ .done

/-- Performs a command. -/
def perform (m : Machine) : Command → Outcome Refusal Reply
  | .reset now => plain (m.reset now)
  | .load values => (m.loadValues values).map fun _ ↦ .done
  | .loadProgram values now => (m.loadProgramValues values now).map fun _ ↦ .done
  | .step now => (m.step now).map .instruction
  | .executeNext => (m.executeNext.mapError .fault).map .instruction
  | .execute word => ((m.execute (Word.ofInt word)).mapError .fault).map (.instruction ∘ some)
  | .advanceTimers elapsed => (m.advanceTimers elapsed).map .ticks
  | .keyDown i => plain (m.keyDown i)
  | .keyUp i => plain (m.keyUp i)
  | .setRegister i value => plain (m.setRegister i value)
  | .setPc value => plain (m.setPc value)
  | .setIndex value => plain (m.setIndex value)
  | .setDelay value => plain (m.setDelay value)
  | .setSound value => plain (m.setSound value)
  | .writeMemory address values => plain (m.writeMemory address values)
  | .setPixel x y lit => plain (m.setPixel x y lit)
  | .flipPixel x y => plain (m.flipPixel x y)
  | .clearScreen => plain m.clearScreen
  | .markDirty => plain m.markDirty
  | .clearDrawPending => plain m.clearDrawPending

/-- The outcomes of a session, command by command. -/
def run (m : Machine) : List Command → List (Outcome Refusal Reply)
  | [] => []
  | c :: cs =>
    let o := m.perform c
    o :: o.machine.run cs

/-- The machine after a session. -/
def after (m : Machine) (cs : List Command) : Machine :=
  cs.foldl (fun m c ↦ (m.perform c).machine) m

end Machine

end Chip8
