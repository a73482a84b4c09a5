import Chip8.Host.Parts
import Chip8.Host.Pixels
import Chip8.Host.Store
import Chip8.Machine.Command

/-!
# Requests to a machine

The commands of a host with any values as arguments. A request is checked as the part that it is for
checks it, and becomes a `Command` if nothing is wrong with it (`Host.keyDown` and the others), so
what a request does to a machine is what its command does.
-/

namespace Chip8.Host

/-! ### Commands -/

/-- Holds a key down. -/
def keyDown (i : Json) : Except Error Command := (key i).map .keyDown

/-- Lets a key go. -/
def keyUp (i : Json) : Except Error Command := (key i).map .keyUp

/-- Sets a register. The register is checked before the value. -/
def setRegister (i value : Json) : Except Error Command := do
  let i ← index .register RegIndex.count i
  return .setRegister i (← integer value)

/-- Sets the program counter. -/
def setPc (value : Json) : Except Error Command := (integer value).map .setPc

/-- Sets the index register. -/
def setIndex (value : Json) : Except Error Command := (integer value).map .setIndex

/-- Sets the delay counter. -/
def setDelay (value : Json) : Except Error Command := (whole value).map .setDelay

/-- Sets the sound counter. -/
def setSound (value : Json) : Except Error Command := (whole value).map .setSound

/-- Executes a word. -/
def execute (word : Json) : Except Error Command := (integer word).map .execute

/-- The bytes of an argument as numbers. -/
def values (data : Json) : Except Error (List Int) :=
  (bytes data).map fun bs ↦ bs.map fun b ↦ (b.toNat : Int)

/-- Loads a program. -/
def loadImage (data : Json) : Except Error Command := (values data).map .load

/-- Writes bytes to memory. The bytes are read before the address is checked. -/
def writeMemory (address data : Json) : Except Error Command := do
  let data ← values data
  checkSpan Memory.standardSize address (.int data.length)
  return .writeMemory (← integer address) data

/-- The machine with the selected pixels set. -/
def setMachinePixels (m : Machine) (x y : Json) (lit : Bool) : Except Error Machine := do
  let screen ← setPixels m.state.screen x y lit
  return m.withState { m.state with screen }

/-! ### Integers as arguments -/

/-- An integer holds the key down that it names. -/
theorem keyDown_int (i : Int) :
    keyDown (.int i) =
      if 0 ≤ i ∧ i < Keypad.count then .ok (.keyDown i)
      else .error (.ofFault (.outOfRange .key i (Keypad.count - 1))) := by
  unfold keyDown key
  rw [index_int]
  split
  · rfl
  · rfl

end Chip8.Host
