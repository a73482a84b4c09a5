import Chip8.Host.Argument
import Chip8.Snapshot.Diff

/-!
# Snapshots from a host

A host may hand in a snapshot of its own making, with any values in its fields: a sheet. Two sheets
are compared as two snapshots of a machine are, field by field, with values compared as values of
JSON are. A register that a sheet lacks is `null` there, so it does not differ from one that is
`null`. Every snapshot of a machine is a sheet (`Sheet.ofSnapshot`).
-/

namespace Chip8.Host

/-- Whether a value is NaN. -/
def isNaN : Json → Bool
  | .number (.double .nan) => true
  | _ => false

/-- Values of fields are compared as numbers are: NaN does not even equal itself. Inside a
collection it does, because a collection holds the same value. -/
instance : BEq Json := ⟨fun a b ↦ !isNaN a && a.equals b⟩

/-- A snapshot with any values in its fields. -/
structure Sheet where
  registers : List Json
  index : Json
  pc : Json
  stack : List Json
  mode : Json
  waitingRegister : Json
  executed : Json
  memory : List Byte
  pressedKeys : List Json
  delay : Json
  sound : Json
  period : Json
  pixels : List (List Bool)
  drawPending : Json

namespace Sheet

/-- The value of a field. -/
def value (s : Sheet) : Snapshot.Field → Json
  | .register i => s.registers[i]?.getD .null
  | .index => s.index
  | .pc => s.pc
  | .stack => .array s.stack
  | .mode => s.mode
  | .waitingRegister => s.waitingRegister
  | .executed => s.executed
  | .pressedKeys => .array s.pressedKeys
  | .delay => s.delay
  | .sound => s.sound
  | .period => s.period

/-- The table of a sheet. -/
def table (s : Sheet) : Snapshot.FieldTable Json :=
  ⟨s.registers.length, s.value, s.memory, s.pixels⟩

/-- The fields of a sheet other than registers, memory and pixels. -/
def fields : List Snapshot.Field :=
  [.index, .pc, .stack, .mode, .waitingRegister, .executed, .pressedKeys, .delay, .sound, .period]

/-- Whether two sheets agree in everything. -/
def agree (s t : Sheet) : Bool :=
  Json.equalItems s.registers t.registers && fields.all (fun f ↦ (s.value f).equals (t.value f)) &&
    s.memory == t.memory && s.pixels == t.pixels && s.drawPending.equals t.drawPending

/-- Whether two sheets that may be missing agree. -/
def agree? : Option Sheet → Option Sheet → Bool
  | some s, some t => s.agree t
  | none, none => true
  | _, _ => false

/-- The differences to a sheet from an earlier one, if there is an earlier one. -/
def diffFrom (b : Option Sheet) (a : Sheet) : Snapshot.Diff Json :=
  Snapshot.FieldTable.diffFrom (b.map table) a.table

/-- The sheet of a machine's snapshot. -/
def ofSnapshot (s : Snapshot) : Sheet where
  registers := s.registers.map .int
  index := .int s.index
  pc := .int s.pc
  stack := s.stack.map .int
  mode := .text s.mode
  waitingRegister := s.waitingRegister.elim .null .int
  executed := .int s.executed
  memory := s.memory
  pressedKeys := s.pressedKeys.map .int
  delay := .int s.delay
  sound := .int s.sound
  period := .int s.period
  pixels := s.pixels
  drawPending := .bool s.drawPending

/-- The mark of a lit pixel in a row of a sheet. -/
def mark : Json := .text "#"

/-- The sheet that some fields describe. A field that is absent has its value at power-on, or none
for the collections other than the registers. -/
def ofFields (fields : List (List CodeUnit × Json)) : Except Error Sheet := do
  let field (key : String) (other : Json) : Json :=
    (Json.lookup (CodeUnit.ofString key) fields).getD other
  let registers ← items (field "registers" (.array (List.replicate 16 (.int 0))))
  let stack ← items (field "stack" (.array []))
  let memory ← bytes (field "memory" (.text ""))
  let pressedKeys ← items (field "pressed_keys" (.array []))
  let rows ← (← items (field "pixels" (.array []))).mapM items
  return {
    registers
    index := field "index" (.int 0)
    pc := field "pc" (.int Memory.programOrigin)
    stack
    mode := field "mode" (.text Mode.running.name)
    waitingRegister := field "waiting_register" .null
    executed := field "instruction_count" (.int 0)
    memory
    pressedKeys
    delay := field "delay" (.int 0)
    sound := field "sound" (.int 0)
    period := field "period_ms" (.int Timers.standardPeriod)
    pixels := rows.map (·.map (· == mark))
    drawPending := field "draw_pending" (.bool false) }

/-- The sheet that a value describes. -/
def ofJson : Json → Except Error Sheet
  | .object fields => ofFields fields
  | _ => .error .noFields

/-- The number of lit pixels. -/
def litCount (s : Sheet) : Nat := Screen.litCount s.pixels

/-! ### Sheets of machines -/

/-- The value of a field of a machine's snapshot as a value of JSON. -/
def ofFieldValue : Snapshot.FieldValue → Json
  | .absent => .null
  | .int n => .int n
  | .ints ns => .array (ns.map .int)
  | .text s => .text s

/-- The sheet of a snapshot has the values of the snapshot. -/
theorem value_ofSnapshot (s : Snapshot) (f : Snapshot.Field) :
    (ofSnapshot s).value f = ofFieldValue (s.value f) := by
  cases f with
  | register i =>
    simp only [ofSnapshot, value, Snapshot.value, List.getElem?_map]
    cases s.registers[i]? with
    | none => rfl
    | some n => rfl
  | waitingRegister =>
    simp only [ofSnapshot, value, Snapshot.value]
    cases s.waitingRegister with
    | none => rfl
    | some n => rfl
  | _ => rfl

end Sheet

end Chip8.Host
