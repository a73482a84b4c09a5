import Chip8.Host.Argument
import Chip8.Trace.Tracer

/-!
# Notices

An event as it is told to a host: its kind, its place and the values that come with it by name. A
machine's events have notices (`Notice.ofEvent`). A host may also send notices of its own to
observers, and then place and values are whatever it says (`Notice.ofValues?`), or those of a fault
that it tells of (`Notice.ofAccount`).
-/

namespace Chip8.Host

/-- An event as it is told. -/
structure Notice where
  kind : Event.Kind
  /-- Where it happened; `null` for events that have no place. -/
  place : Json
  details : List (String × Json)

namespace Notice

/-- The notice of a kind of event with some values, the place first if events of the kind have one.
There have to be as many values as the kind has names. -/
def ofValues? (kind : Event.Kind) (values : List Json) : Option Notice :=
  let told (place : Json) (values : List Json) : Option Notice :=
    if values.length = kind.parameters.length then
      some ⟨kind, place, kind.parameters.zip values⟩
    else none
  if kind.hasPlace then
    match values with
    | place :: values => told place values
    | [] => none
  else told .null values

/-- The notice of a fault at a place. -/
def ofFault (place : Json) (kind : Fault.Kind) (message : List CodeUnit) : Notice :=
  ⟨.fault, place, Event.Kind.fault.parameters.zip [.text kind.name, .string message]⟩

/-- The notice of a fault that a host tells of, if it can be told. -/
def ofAccount (place : Json) (a : Account) : Except Error Notice :=
  match a.message with
  | .ok message => .ok (ofFault place a.kind message)
  | .error e => .error (.argument e)

/-- The values that come with a machine's event, in the order of their names. -/
def values : Event → List Json
  | .instruction _ word text => [.int word, .text text]
  | .call _ target depth => [.int target, .int depth]
  | .ret _ target depth => [.int target, .int depth]
  | .draw _ x y rows erased => [.int x, .int y, .int rows, .bool erased]
  | .keyWait _ register => [.int register]
  | .keyResume _ register key => [.int register, .int key]
  | .timerTick ticks delay sound => [.int ticks, .int delay, .int sound]
  | .fault _ cause => [.text cause.kind.name, .text cause.message]

/-- The notice of a machine's event. -/
def ofEvent (e : Event) : Notice :=
  ⟨e.kind, e.pc?.elim .null .int, e.kind.parameters.zip (values e)⟩

/-- Every value of an event has a name. -/
theorem length_values (e : Event) : (values e).length = e.kind.parameters.length := by
  cases e <;> rfl

/-- An event has a place exactly if events of its kind have one. -/
theorem isSome_pc? (e : Event) : e.pc?.isSome = e.kind.hasPlace := by
  cases e <;> rfl

end Notice

/-- The name that an argument is. A collection cannot even be looked up among names. -/
def observerName : Json → Except Error (List CodeUnit)
  | .string units => .ok units
  | .array _ => .error .wrongKind
  | .object _ => .error .wrongKind
  | _ => .error .noName

end Chip8.Host
