import Chip8.Snapshot.Basic

/-!
# Differences of snapshots

A diff lists the fields in which two snapshots differ, with both values, in groups: processor,
memory, keypad and timers, and tells whether the pixels differ. Fields are data (`Field`), and their
printed names are a function of them. Cells of memory are bytes, so they have changes of their own
(`CellChange`).

A diff looks at a snapshot through the table of its field values (`FieldTable`) and compares values
of any type that can be compared. A machine's values are numbers, lists and names (`FieldValue`).

Registers come first in the order of their printed names, so `V10` stands between `V1` and `V2`; a
register that one of the two lacks is absent on that side. Memory is compared as far as both reach.
-/

namespace Chip8.Snapshot

/-- A part of a snapshot, other than memory and pixels, that can differ on its own. -/
inductive Field
  | register (i : Nat)
  | index
  | pc
  | stack
  | mode
  | waitingRegister
  | executed
  | pressedKeys
  | delay
  | sound
  | period
  deriving DecidableEq, Repr

/-- The name of the register with a number. -/
def registerName (i : Nat) : String := "V" ++ Text.hex 0 i

/-- The printed name of a field. -/
def Field.name : Field → String
  | register i => "registers." ++ registerName i
  | index => "index"
  | pc => "pc"
  | stack => "stack"
  | mode => "mode"
  | waitingRegister => "waiting_register"
  | executed => "instruction_count"
  | pressedKeys => "pressed_keys"
  | delay => "delay"
  | sound => "sound"
  | period => "period_ms"

/-- What a diff sees of a snapshot. -/
structure FieldTable (V : Type) where
  /-- The number of registers. -/
  registers : Nat
  value : Field → V
  memory : List Byte
  pixels : List (List Bool)

/-- A field that differs, with its two values. -/
structure Change (V : Type) where
  field : Field
  before : V
  after : V
  deriving DecidableEq, Repr

/-- A cell of memory that differs, with its two bytes. -/
structure CellChange where
  address : Nat
  before : Byte
  after : Byte
  deriving DecidableEq, Repr

/-- The printed name of a cell. -/
def CellChange.name (c : CellChange) : String := "0x" ++ Text.hex 3 c.address

/-- The differences between two snapshots. -/
structure Diff (V : Type) where
  cpu : List (Change V)
  memory : List CellChange
  keypad : List (Change V)
  timers : List (Change V)
  displayChanged : Bool
  deriving DecidableEq, Repr

namespace Diff

variable {V : Type}

/-- No difference. -/
def empty : Diff V := ⟨[], [], [], [], false⟩

/-- Whether there is no difference. -/
def isEmpty (d : Diff V) : Bool :=
  d.cpu.isEmpty && d.memory.isEmpty && d.keypad.isEmpty && d.timers.isEmpty && !d.displayChanged

/-- The printed names of what changed, group by group. -/
def names (d : Diff V) : List String :=
  d.cpu.map (·.field.name) ++ d.memory.map (·.name) ++ d.keypad.map (·.field.name) ++
    d.timers.map (·.field.name)

/-- A diff without differences is the empty one. -/
theorem isEmpty_iff (d : Diff V) : d.isEmpty = true ↔ d = empty := by
  obtain ⟨cpu, memory, keypad, timers, displayChanged⟩ := d
  simp [isEmpty, empty, and_assoc]

end Diff

/-! ### Comparing tables -/

/-- The registers below a number in the order of their printed names. -/
def registerFields (count : Nat) : List Field :=
  ((List.range count).mergeSort fun i j ↦ decide (registerName i ≤ registerName j)).map .register

/-- The changes of two memories from an address on, as far as both reach. -/
def cellChanges (address : Nat) : List Byte → List Byte → List CellChange
  | b :: bs, a :: as =>
    if b = a then cellChanges (address + 1) bs as
    else ⟨address, b, a⟩ :: cellChanges (address + 1) bs as
  | _, _ => []

namespace FieldTable

variable {V : Type} [BEq V]

/-- The changes among some fields, in their order. -/
def changes (b a : FieldTable V) (fields : List Field) : List (Change V) :=
  (fields.map fun f ↦ ⟨f, b.value f, a.value f⟩).filter fun c ↦ c.before != c.after

/-- The differences between a table and a later one. -/
def diff (b a : FieldTable V) : Diff V where
  cpu := b.changes a
    (registerFields (max b.registers a.registers) ++
      [.index, .pc, .stack, .mode, .waitingRegister, .executed])
  memory := cellChanges 0 b.memory a.memory
  keypad := b.changes a [.pressedKeys]
  timers := b.changes a [.delay, .sound, .period]
  displayChanged := b.pixels != a.pixels

/-- The differences to a table from an earlier one, if there is an earlier one; without it nothing
counts as a difference. -/
def diffFrom (b : Option (FieldTable V)) (a : FieldTable V) : Diff V := b.elim .empty (diff · a)

end FieldTable

/-! ### Machines -/

/-- The value of a field of a machine's snapshot. -/
inductive FieldValue
  | absent
  | int (n : Int)
  | ints (ns : List Int)
  | text (s : String)
  deriving DecidableEq, Repr

/-- The value of an integer that may be missing. -/
def FieldValue.ofOption : Option Int → FieldValue
  | none => absent
  | some n => int n

/-- The value of a field in a snapshot. -/
def value (s : Snapshot) : Field → FieldValue
  | .register i => .ofOption s.registers[i]?
  | .index => .int s.index
  | .pc => .int s.pc
  | .stack => .ints s.stack
  | .mode => .text s.mode
  | .waitingRegister => .ofOption s.waitingRegister
  | .executed => .int s.executed
  | .pressedKeys => .ints s.pressedKeys
  | .delay => .int s.delay
  | .sound => .int s.sound
  | .period => .int s.period

/-- The table of a snapshot. -/
def table (s : Snapshot) : FieldTable FieldValue :=
  ⟨s.registers.length, s.value, s.memory, s.pixels⟩

/-- The differences between a snapshot and a later one. -/
def diff (b a : Snapshot) : Diff FieldValue := b.table.diff a.table

/-- The differences to a snapshot from an earlier one, if there is an earlier one. -/
def diffFrom (b : Option Snapshot) (a : Snapshot) : Diff FieldValue :=
  FieldTable.diffFrom (b.map table) a.table

end Chip8.Snapshot
