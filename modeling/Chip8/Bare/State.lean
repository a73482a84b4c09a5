import Chip8.Bare.Sequence
import Chip8.Machine.Basic
import Mathlib.Data.Int.Bitwise

/-!
# A machine of plain numbers

The state of a machine as plain numbers and lists. Nothing in its types says how many registers or
cells there are or how great a value may be, and an item of a list need not exist. What keeps all of
this in range are the masks and the checks of the accesses below, each of which stands where it is
needed and nowhere else: registers can be written with a mask (`setV`) and without one (`writeV`),
and memory is written by replacing a slice, which could make it longer or shorter.

An access that is refused keeps what it has changed until then. An index that no item has ends an
access too (`Stop.noItem`). Observers and the log are left out: that nothing depends on them is
known.
-/

namespace Chip8.Bare

/-- The parts of a machine, as numbers and lists of numbers. -/
structure State where
  /-- `V0` to `VF`. -/
  registers : List Int
  index : Int
  pc : Int
  cells : List Int
  /-- The slots of the call stack, oldest first. -/
  slots : List Int
  /-- The number of live slots. -/
  pointer : Int
  /-- The rows from the top, each from the left. -/
  pixels : List (List Bool)
  /-- Whether something was drawn that the host has not shown. -/
  dirty : Bool
  /-- Which keys are down. -/
  keys : List Bool
  timers : Timers
  mode : Mode
  /-- The register that the key goes to. -/
  waitRegister : Option Int
  /-- The word that was last executed. -/
  last : Option Int
  executed : Nat
  random : RandomSource
  deriving DecidableEq

/-- Why an access ended before its end. -/
inductive Stop
  | refused (r : Refusal)
  /-- A list has no item at an index. -/
  | noItem
  deriving DecidableEq

/-- An access to a machine of plain numbers. -/
abbrev Action (α : Type) := Access Stop State α

variable {α : Type}

/-- Goes on if a condition holds, and is refused otherwise. -/
def ensure (p : Prop) [Decidable p] (f : Fault) : Action Unit :=
  if p then return () else throw (.refused (.fault f))

/-- Goes on with an item, if there is one. -/
def found : Option α → Action α
  | some a => return a
  | none => throw .noItem

/-! ### Registers -/

/-- The contents of a register. -/
def readV (i : Int) : Action Int := do found (Sequence.item? (← Access.part).registers i)

/-- Puts a number into a register as it is. -/
def writeV (i value : Int) : Action Unit := do
  let registers ← found (Sequence.setItem? (← Access.part).registers i value)
  Access.change ({ · with registers })

/-- Sets a register to a number modulo 256, after its own number is checked. -/
def setV (i value : Int) : Action Unit := do
  ensure (0 ≤ i ∧ i < 16) (.outOfRange .register i 15)
  writeV i (value % 256)

/-- Sets the flag register. -/
def setFlag (value : Int) : Action Unit := writeV 15 (value % 256)

/-- Sets the index register. -/
def setIndex (value : Int) : Action Unit := Access.change ({ · with index := value % 65536 })

/-- Sets the program counter. -/
def setPc (value : Int) : Action Unit := Access.change ({ · with pc := value % 65536 })

/-- Moves the program counter. -/
def advance (amount : Int) : Action Unit := do setPc ((← Access.part).pc + amount)

/-- All registers zero, and the program counter at `pc`. -/
def resetRegisters (pc : Int) : Action Unit := do
  Access.change ({ · with registers := List.replicate 16 0 })
  Access.change ({ · with index := 0 })
  setPc pc

/-! ### Call stack -/

/-- Pushes an address; `pc` is where the call stands. -/
def push (address pc : Int) : Action Unit := do
  let s ← Access.part
  ensure (s.pointer < CallStack.standardDepth) (.stackOverflow pc CallStack.standardDepth)
  let slots ← found (Sequence.setItem? s.slots s.pointer (address % 65536))
  Access.change ({ · with slots })
  Access.change ({ · with pointer := s.pointer + 1 })

/-- Takes the latest address; `pc` is where the return stands. -/
def pop (pc : Int) : Action Int := do
  let s ← Access.part
  ensure (0 < s.pointer) (.stackUnderflow pc)
  Access.change ({ · with pointer := s.pointer - 1 })
  found (Sequence.item? (← Access.part).slots (s.pointer - 1))

/-- Zero in every slot, and none of them live. -/
def resetStack : Action Unit := do
  Access.change ({ · with slots := List.replicate 16 0 })
  Access.change ({ · with pointer := 0 })

/-! ### Memory -/

/-- Checks that some cells can be addressed. -/
def checkSpan (address count : Int) : Action Unit :=
  match Memory.checkSpan Memory.standardSize address count with
  | .ok _ => return ()
  | .error f => throw (.refused (.fault f))

/-- The word at an address, made of two bytes. -/
def readWord (address : Int) : Action Int := do
  checkSpan address 2
  let high ← found (Sequence.item? (← Access.part).cells address)
  let low ← found (Sequence.item? (← Access.part).cells (address + 1))
  return Int.lor (high <<< (8 : Nat)) low

/-- The `count` bytes from an address on. -/
def readBytes (address count : Int) : Action (List Int) := do
  checkSpan address count
  return Sequence.slice (← Access.part).cells address (address + count)

/-- Writes some numbers, each modulo 256, from an address on. -/
def writeBytes (address : Int) (values : List Int) : Action Unit := do
  let payload := values.map (· % 256)
  checkSpan address payload.length
  Access.change fun s ↦
    { s with cells := Sequence.setSlice s.cells address (address + payload.length) payload }

/-- Writes a program from `origin` on. Its numbers are checked first, and then its end. -/
def load (values : List Int) (origin : Int) : Action Unit :=
  match Memory.stray? values with
  | some v => throw (.refused (.notAByte v))
  | none => do
    ensure (origin + values.length ≤ Memory.standardSize)
      (Memory.outside Memory.standardSize (origin + values.length - 1))
    writeBytes origin values

/-- Zeros, and then the font table. -/
def resetMemory : Action Unit := do
  let font := Font.table.toList.map fun b ↦ (b.toNat : Int)
  Access.change fun s ↦
    { s with
      cells := Sequence.setSlice s.cells 0 s.cells.length (List.replicate Memory.standardSize 0) }
  Access.change fun s ↦
    { s with cells := Sequence.setSlice s.cells Font.base (Font.base + font.length) font }

/-! ### Screen -/

/-- Checks the coordinates of a pixel, the column first. -/
def checkPixel (x y : Int) : Action Unit := do
  ensure (0 ≤ x ∧ x < Screen.standardWidth) (.outOfRange .column x (Screen.standardWidth - 1))
  ensure (0 ≤ y ∧ y < Screen.standardHeight) (.outOfRange .row y (Screen.standardHeight - 1))

/-- Whether a pixel is lit. -/
def readPixel (x y : Int) : Action Bool := do
  let row ← found (Sequence.item? (← Access.part).pixels y)
  found (Sequence.item? row x)

/-- Puts a pixel into its row, and the row into the grid. -/
def writePixel (x y : Int) (lit : Bool) : Action Unit := do
  let s ← Access.part
  let row ← found (Sequence.item? s.pixels y)
  let row ← found (Sequence.setItem? row x lit)
  let pixels ← found (Sequence.setItem? s.pixels y row)
  Access.change ({ · with pixels })

/-- Raises the flag for the host, or lowers it. -/
def setDirty (dirty : Bool) : Action Unit := Access.change ({ · with dirty })

/-- Sets a pixel. -/
def setPixel (x y : Int) (lit : Bool) : Action Unit := do
  checkPixel x y
  writePixel x y lit
  setDirty true

/-- Toggles a pixel and answers its new state. -/
def flip (x y : Int) : Action Bool := do
  checkPixel x y
  let lit := !(← readPixel x y)
  writePixel x y lit
  setDirty true
  return lit

/-- Every pixel dark. -/
def darken : Action Unit :=
  Access.change fun s ↦ { s with pixels := s.pixels.map fun row ↦ row.map fun _ ↦ false }

/-- Blanks the screen. -/
def clearScreen : Action Unit := do
  darken
  setDirty true

/-- Blanks the screen and lowers the flag. -/
def resetScreen : Action Unit := do
  darken
  setDirty false

/-! ### Keypad -/

/-- Checks the number of a key. -/
def checkKey (i : Int) : Action Unit := ensure (0 ≤ i ∧ i < 16) (.outOfRange .key i 15)

/-- Holds a key down, or lets it go. -/
def turn (down : Bool) (i : Int) : Action Unit := do
  checkKey i
  let keys ← found (Sequence.setItem? (← Access.part).keys i down)
  Access.change ({ · with keys })

/-- Whether a key is down. -/
def isDown (i : Int) : Action Bool := do
  checkKey i
  found (Sequence.item? (← Access.part).keys i)

/-- The last of some keys that is down, counted from `i` on, or else the one found before. -/
def scan (i : Int) (key : Option Int) : List Bool → Option Int
  | [] => key
  | down :: keys => scan (i + 1) (if down then some i else key) keys

/-- The highest key that is down. -/
def highest? : Action (Option Int) := return scan 0 none (← Access.part).keys

/-- No key down. -/
def resetKeys : Action Unit := Access.change ({ · with keys := List.replicate 16 false })

/-! ### Timers and random bytes -/

/-- Takes ticks, and answers how many, unless that is refused. -/
def passTime (f : Timers → Except Timers.Error (Int × Timers)) : Action Int := do
  match f (← Access.part).timers with
  | .error e => throw (.refused (.timer e))
  | .ok (ticks, timers) =>
    Access.change ({ · with timers })
    return ticks

/-- Draws a random byte. -/
def drawByte : Action Int := do
  let (b, random) := (← Access.part).random.next
  Access.change ({ · with random })
  return b.toNat

end Chip8.Bare
