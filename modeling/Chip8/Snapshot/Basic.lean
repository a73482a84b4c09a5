import Chip8.Machine.Basic

/-!
# Snapshots

What a debugger sees of a machine at one moment, as plain lists and integers. A snapshot need not
come from a machine: it may have any number of registers and cells, and any values in them, so two
snapshots can be compared whatever they are of. A machine's snapshot leaves out what the machine
does not show: the source of random bytes, the timer baseline, the popped slots of the stack.
-/

namespace Chip8

/-- The visible state of a machine at one moment. -/
structure Snapshot where
  registers : List Int
  index : Int
  pc : Int
  /-- The live return addresses, oldest first. -/
  stack : List Int
  mode : String
  waitingRegister : Option Int
  executed : Int
  memory : List Byte
  pressedKeys : List Int
  delay : Int
  sound : Int
  period : Int
  pixels : List (List Bool)
  drawPending : Bool
  deriving DecidableEq

namespace Snapshot

/-- The snapshot of a machine's state. -/
def ofState (s : State) : Snapshot where
  registers := s.registers.v.toList.map fun b ↦ (b.toNat : Int)
  index := s.index.toNat
  pc := s.pc.toNat
  stack := s.stack.entries.map fun w ↦ (w.toNat : Int)
  mode := s.mode.name
  waitingRegister := s.waitRegister.map fun x ↦ (x.val : Int)
  executed := s.executed
  memory := s.memory.cells.toList
  pressedKeys := s.keypad.pressed.map fun k ↦ (k.val : Int)
  delay := s.timers.delay
  sound := s.timers.sound
  period := s.timers.period
  pixels := s.screen.toLists
  drawPending := s.screen.dirty

/-- The number of lit pixels. -/
def litCount (s : Snapshot) : Nat := Screen.litCount s.pixels

end Snapshot

end Chip8
