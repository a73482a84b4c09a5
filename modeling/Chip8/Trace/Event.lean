import Chip8.Fault

/-!
# Trace events

What the machine reports to observers while it runs. Every event has a kind, and the values that
come with an event are named by its kind (`Event.Kind.parameters`).
-/

namespace Chip8

/-- Something that happened in a machine. -/
inductive Event
  /-- An instruction is about to be executed. -/
  | instruction (pc word : Int) (text : String)
  /-- A call was made; `depth` return addresses are live after it. -/
  | call (pc target depth : Int)
  /-- A return was made; `depth` return addresses are live after it. -/
  | ret (pc target depth : Int)
  /-- A sprite was drawn; `erased` tells whether a lit pixel went dark. -/
  | draw (pc x y rows : Int) (erased : Bool)
  /-- The machine started to wait for a key. -/
  | keyWait (pc register : Int)
  /-- A key ended the wait. -/
  | keyResume (pc register key : Int)
  /-- Some ticks were taken from the counters; they stand at `delay` and `sound` after it. -/
  | timerTick (ticks delay sound : Int)
  /-- A step was refused. -/
  | fault (pc : Int) (cause : Fault)
  deriving DecidableEq, Repr

namespace Event

/-- The kinds of events. -/
inductive Kind
  | instruction | call | ret | draw | keyWait | keyResume | timerTick | fault
  deriving DecidableEq, Repr

namespace Kind

/-- Every kind. -/
def all : List Kind := [instruction, call, ret, draw, keyWait, keyResume, timerTick, fault]

/-- The name of a kind. -/
def name : Kind → String
  | instruction => "instruction"
  | call => "call"
  | ret => "return"
  | draw => "draw"
  | keyWait => "key_wait"
  | keyResume => "key_resume"
  | timerTick => "timer_tick"
  | fault => "fault"

/-- The kind of a given name. -/
def ofName? (s : String) : Option Kind := all.find? fun k ↦ k.name == s

theorem mem_all (k : Kind) : k ∈ all := by
  cases k <;> decide

/-- The names of the values that come with an event of a kind, its place apart. -/
def parameters : Kind → List String
  | instruction => ["word", "mnemonic"]
  | call => ["target", "depth"]
  | ret => ["target", "depth"]
  | draw => ["x", "y", "rows", "erased"]
  | keyWait => ["register"]
  | keyResume => ["register", "key"]
  | timerTick => ["ticks", "delay", "sound"]
  | fault => ["error", "message"]

/-- Whether events of a kind happen at a place; ticks do not. -/
def hasPlace : Kind → Bool
  | timerTick => false
  | _ => true

end Kind

/-- The kind of an event. -/
def kind : Event → Kind
  | instruction .. => .instruction
  | call .. => .call
  | ret .. => .ret
  | draw .. => .draw
  | keyWait .. => .keyWait
  | keyResume .. => .keyResume
  | timerTick .. => .timerTick
  | fault .. => .fault

/-- Where the event happened; ticks have no place. -/
def pc? : Event → Option Int
  | instruction pc .. => some pc
  | call pc .. => some pc
  | ret pc .. => some pc
  | draw pc .. => some pc
  | keyWait pc _ => some pc
  | keyResume pc .. => some pc
  | timerTick .. => none
  | fault pc _ => some pc

end Event

end Chip8
