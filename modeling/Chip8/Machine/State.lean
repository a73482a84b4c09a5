import Chip8.Machine.CallStack
import Chip8.Machine.Keypad
import Chip8.Machine.Memory
import Chip8.Machine.Registers
import Chip8.Machine.Sprite
import Chip8.Machine.Timers
import Chip8.Random.Source

/-!
# The state of a machine

Everything that an instruction can read or change, as one value. The source of random bytes is part
of it, so that executing an instruction is a function. A reset puts every part back but that source
and the period of the timers.
-/

namespace Chip8

/-- What the machine is doing: running, or waiting for a key. -/
inductive Mode
  | running
  | waitingForKey
  deriving DecidableEq, Repr

/-- The name of a mode. -/
def Mode.name : Mode → String
  | running => "running"
  | waitingForKey => "waiting_for_key"

/-- The parts of a machine. -/
structure State where
  memory : Memory Memory.standardSize
  registers : Registers
  stack : CallStack CallStack.standardDepth
  screen : Screen Screen.standardWidth Screen.standardHeight
  keypad : Keypad
  timers : Timers
  mode : Mode
  /-- The register that the key goes to. It is kept beside the mode, and nothing but the
  instructions makes the two agree. -/
  waitRegister : Option RegIndex
  /-- How many instructions were completed since the last reset. -/
  executed : Nat
  random : RandomSource
  deriving DecidableEq

namespace State

/-- The power-on state with timers of a given period, a program counter and a clock reading. -/
def powerOn (timers : Timers) (random : RandomSource) (origin now : Int) : State where
  memory := .blank _
  registers := .blank origin
  stack := .blank _
  screen := .blank _ _
  keypad := .blank
  timers := timers.reset now
  mode := .running
  waitRegister := none
  executed := 0
  random := random

/-- The parts that hold a program and its data back at their power-on values. The baseline of the
timers, the mode with its register and the count of instructions stay. -/
def clear (s : State) (origin : Int) : State :=
  { s with
    memory := .blank _
    registers := .blank origin
    stack := .blank _
    screen := .blank _ _
    keypad := .blank
    timers := s.timers.clear }

/-- Every part back at its power-on value, but for the source of random bytes. -/
def reset (s : State) (origin now : Int) : State :=
  { s with
    memory := .blank _
    registers := .blank origin
    stack := .blank _
    screen := .blank _ _
    keypad := .blank
    timers := s.timers.reset now
    mode := .running
    waitRegister := none
    executed := 0 }

/-- The program counter. -/
def pc (s : State) : Word := s.registers.pc

/-- The index register. -/
def index (s : State) : Word := s.registers.index

/-- The contents of `Vx`. -/
def v (s : State) (x : RegIndex) : Byte := s.registers.get x

/-- The state with another program counter. -/
def setPc (s : State) (pc : Word) : State := { s with registers := { s.registers with pc } }

/-- The state with another index register. -/
def setIndex (s : State) (index : Word) : State :=
  { s with registers := { s.registers with index } }

/-- The state with another `Vx`. -/
def setV (s : State) (x : RegIndex) (b : Byte) : State :=
  { s with registers := s.registers.set x b }

/-- The state with the flag register at one or zero. -/
def setFlag (s : State) (flag : Bool) : State := s.setV .flag (if flag then 1 else 0)

/-- The program counter moved past one instruction. -/
def advance (s : State) : State := s.setPc (s.pc + 2)

/-- The program counter moved past one instruction, and past one more if `skip`. -/
def advanceSkipping (s : State) (skip : Bool) : State := s.setPc (s.pc + if skip then 4 else 2)

/-- Some bytes put into the registers from `Vi` on. -/
def putV (s : State) (i : Nat) : List Byte → State
  | [] => s
  | b :: bs => (if h : i < 16 then s.setV ⟨i, h⟩ b else s).putV (i + 1) bs

/-! ### What the setters leave alone -/

@[simp] theorem pc_setPc (s : State) (pc : Word) : (s.setPc pc).pc = pc := rfl

@[simp] theorem index_setPc (s : State) (pc : Word) : (s.setPc pc).index = s.index := rfl

@[simp] theorem v_setPc (s : State) (pc : Word) (x : RegIndex) : (s.setPc pc).v x = s.v x := rfl

@[simp] theorem pc_setIndex (s : State) (i : Word) : (s.setIndex i).pc = s.pc := rfl

@[simp] theorem index_setIndex (s : State) (i : Word) : (s.setIndex i).index = i := rfl

@[simp] theorem v_setIndex (s : State) (i : Word) (x : RegIndex) : (s.setIndex i).v x = s.v x := rfl

@[simp] theorem pc_setV (s : State) (x : RegIndex) (b : Byte) : (s.setV x b).pc = s.pc := rfl

@[simp] theorem index_setV (s : State) (x : RegIndex) (b : Byte) : (s.setV x b).index = s.index :=
  rfl

@[simp] theorem v_setV_self (s : State) (x : RegIndex) (b : Byte) : (s.setV x b).v x = b :=
  Registers.get_set_self ..

theorem v_setV_of_ne (s : State) {x y : RegIndex} (h : y ≠ x) (b : Byte) :
    (s.setV x b).v y = s.v y :=
  Registers.get_set_of_ne _ h _

/-- Changing the registers changes nothing else. -/
theorem eq_of_setV (s : State) (x : RegIndex) (b : Byte) :
    s.setV x b = { s with registers := s.registers.set x b } := rfl

end State

end Chip8
