import Chip8.Machine.Exec
import Chip8.Trace.Tracer

/-!
# Actions

An instruction is executed piece by piece, and every piece takes effect at once: an `Action` that
runs into a fault ends there, and what it has changed, reported and logged before stays. That a
failing instruction leaves nothing behind is therefore not a matter of types. It depends on the
order in which each instruction checks and writes (`Instr.microcode`).

An action also sees the observers. It asks whether there are any before it reports to them
(`Action.report`), so that nothing depends on them is not a matter of types either.

Memory, call stack, screen, keypad and registers have accesses of their own, which are run on the
part of the state that they are about (`Action.within`). A row of pixels or of registers is several
accesses, one after the other.
-/

namespace Chip8

/-- What an action works on. -/
structure Activity where
  state : State
  tracer : Tracer Event
  /-- The lines that were written to the log so far. -/
  log : List LogEntry

/-- A piece of the execution of an instruction. -/
abbrev Action (α : Type) := Access Fault Activity α

namespace Action

variable {α : Type}

/-- The state as it is now. -/
def state : Action State := return (← get).state

/-- Changes the state. -/
def change (f : State → State) : Action Unit := modify fun a ↦ { a with state := f a.state }

/-- Reports an event, if there is an observer. -/
def report (event : Event) : Action Unit := do
  if (← get).tracer.hasObservers then modify fun a ↦ { a with tracer := a.tracer.emit event }

/-- Writes a line to the log. -/
def note (entry : LogEntry) : Action Unit := modify fun a ↦ { a with log := a.log ++ [entry] }

/-- Runs an access to a part of the state. What it has done to the part takes effect, also if it was
refused. -/
def within {σ : Type} (part : State → σ) (put : σ → State → State) (a : Access Fault σ α) :
    Action α := fun p ↦
  match a.run (part p.state) with
  | .ok v t => .ok v { p with state := put t p.state }
  | .error f t => .error f { p with state := put t p.state }

/-- How an access to a part ends: as the access does, and with what it has done to the part. -/
theorem run_within_eq {σ : Type} (part : State → σ) (put : σ → State → State)
    (a : Access Fault σ α) (p : Activity) :
    (within part put a).run p =
      match a.run (part p.state) with
      | .ok v t => .ok v { p with state := put t p.state }
      | .error f t => .error f { p with state := put t p.state } :=
  rfl

/-- Runs an access to memory. -/
def onMemory (a : Access Fault (Memory Memory.standardSize) α) : Action α :=
  within State.memory (fun memory s ↦ { s with memory }) a

/-- Runs an access to the registers. -/
def onRegisters (a : Access Fault Registers α) : Action α :=
  within State.registers (fun registers s ↦ { s with registers }) a

/-- Runs an access to the call stack. -/
def onStack (a : Access Fault (CallStack CallStack.standardDepth) α) : Action α :=
  within State.stack (fun stack s ↦ { s with stack }) a

/-- Runs an access to the screen. -/
def onScreen (a : Access Fault (Screen Screen.standardWidth Screen.standardHeight) α) : Action α :=
  within State.screen (fun screen s ↦ { s with screen }) a

/-- Runs an access to the keypad. -/
def onKeypad (a : Access Fault Keypad α) : Action α :=
  within State.keypad (fun keypad s ↦ { s with keypad }) a

/-- Moves the program counter past one instruction. -/
def advance : Action Unit := change State.advance

/-! ### Memory -/

/-- The `count` bytes from an address on. -/
def readBytes (address count : Int) : Action (List Byte) := do
  Access.check ((← state).memory.readBytes address count)

/-- Writes some bytes from an address on. -/
def writeBytes (address : Int) (bytes : List Byte) : Action Unit :=
  onMemory (Memory.writing address bytes)

/-- Writes a program image from `origin` on. -/
def load (image : List Byte) (origin : Int) : Action Unit := do
  onMemory (Memory.loading image origin)
  note (.loaded image.length origin)

/-- Puts some bytes into the registers from `Vi` on, one after the other. -/
def putV (i : Nat) : List Byte → Action Unit
  | [] => return ()
  | b :: bs => do
    if h : i < 16 then change (·.setV ⟨i, h⟩ b)
    putV (i + 1) bs

/-! ### Call stack, random bytes and screen -/

/-- Pushes a return address; `pc` is where the call stands. -/
def push (address pc : Int) : Action Unit := onStack (CallStack.pushing address pc)

/-- Takes the latest return address; `pc` is where the return stands. -/
def pop (pc : Int) : Action Word := onStack (CallStack.popping pc)

/-- Draws a random byte. -/
def drawByte : Action Byte := do
  let (b, random) := (← state).random.next
  change ({ · with random })
  return b

/-- Toggles a pixel and answers its new state. -/
def flip (x y : Int) : Action Bool := onScreen (Screen.flipping x y)

/-- Toggles the pixels under the set bits of a sprite row, offset by offset, and answers whether a
pixel went dark or `erased` was true already. -/
def flipRow (left top : Nat) (row : Byte) : List Nat → Bool → Action Bool
  | [], erased => return erased
  | c :: cs, erased => do
    if row.getMsbD c then
      let lit ← flip ((left + c) % Screen.standardWidth : Nat) (top % Screen.standardHeight : Nat)
      flipRow left top row cs (erased || !lit)
    else flipRow left top row cs erased

/-- Toggles the pixels of a sprite row by row. -/
def flipRows (left top : Nat) : List Byte → Bool → Action Bool
  | [], erased => return erased
  | row :: rows, erased => do
    let erased ← flipRow left top row (List.range Screen.spriteWidth) erased
    flipRows left (top + 1) rows erased

end Action

end Chip8
