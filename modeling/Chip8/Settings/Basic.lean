import Chip8.Json.Conversion
import Chip8.Json.Display
import Chip8.Json.Reader
import Chip8.Json.Writer
import Chip8.Machine.Basic
import Chip8.Random.Digest

/-!
# Settings

The settings of a machine as their file has them. A settings file is a JSON object, and what it says
about the name and the seed is kept as it stands; so the fields are JSON values, and
`Settings.setup` and `Settings.source` are the places where a machine asks for more. The origin is
written as an address and read back from one.

Settings come from a file or any other JSON value (`ofJson`), from single fields taken as they are
(`ofFields`) or from the name of a profile (`ofProfile`). However they come, the timer period has to
be a positive number (`check`). Where text is read, it is read under `Limits`.
-/

namespace Chip8

/-- The settings of a machine. -/
structure Settings where
  name : Json
  timerPeriod : Json
  programOrigin : Json
  traceInstructions : Json
  randomSeed : Json

namespace Settings

/-- Why settings were refused. -/
inductive Error
  /-- The text could not be read. -/
  | unreadable (e : Json.Error)
  /-- A value that is no object has no settings. -/
  | notAnObject
  /-- There is no field of this name. -/
  | unknownField (key : List CodeUnit)
  /-- The timer period is a number, but not a positive one. -/
  | periodNotPositive (period : Json)
  /-- A value cannot be converted to what the field needs. -/
  | conversion (e : Conversion.Error)

/-- The text of a refusal, where it has one. -/
def Error.message? : Error → Option String
  | periodNotPositive period =>
    some ("timer_period_ms must be positive: " ++ CodeUnit.toString period.display)
  | _ => none

/-- The settings of a machine that nobody configured. -/
def standard : Settings where
  name := .text "CHIP-8"
  timerPeriod := .int Timers.standardPeriod
  programOrigin := .int Memory.programOrigin
  traceInstructions := .bool false
  randomSeed := .null

/-- The settings of a machine that logs every instruction. -/
def traced : Settings :=
  { standard with name := .text "CHIP-8 (traced)", traceInstructions := .bool true }

/-- The settings of a profile; a name that is no profile means the default. -/
def ofProfile (profile : String) : Settings := if profile = "trace" then traced else standard

/-- Refuses a timer period that is not positive or no number at all. -/
def check (s : Settings) : Except Error Settings :=
  match s.timerPeriod.asNumber? with
  | none => .error (.conversion .wrongKind)
  | some n => if n.isNonPositive then .error (.periodNotPositive s.timerPeriod) else .ok s

/-- Settings with one field set to a value. -/
def setField (s : Settings) (key : List CodeUnit) (value : Json) : Except Error Settings :=
  if key = CodeUnit.ofString "name" then .ok { s with name := value }
  else if key = CodeUnit.ofString "timer_period_ms" then .ok { s with timerPeriod := value }
  else if key = CodeUnit.ofString "program_origin" then .ok { s with programOrigin := value }
  else if key = CodeUnit.ofString "trace_instructions" then
    .ok { s with traceInstructions := value }
  else if key = CodeUnit.ofString "random_seed" then .ok { s with randomSeed := value }
  else .error (.unknownField key)

/-- The default settings with some fields set to values as they are. -/
def ofFields (fields : List (List CodeUnit × Json)) : Except Error Settings := do
  let s ← fields.foldlM (fun s (key, value) ↦ setField s key value) standard
  check s

/-- The settings that a JSON value describes. Fields that are absent have their defaults, and fields
that are not known are passed over. The period is converted before the origin. -/
def ofJson (limits : Limits) (value : Json) : Except Error Settings :=
  match value with
  | .object members => do
    let field (key : String) (other : Json) : Json :=
      (Json.lookup (CodeUnit.ofString key) members).getD other
    let period ←
      (Conversion.integer limits (field "timer_period_ms" standard.timerPeriod)).mapError
        .conversion
    let origin ←
      (Conversion.origin (field "program_origin" standard.programOrigin)).mapError .conversion
    check {
      name := field "name" standard.name
      timerPeriod := .int period
      programOrigin := origin
      traceInstructions :=
        .bool (field "trace_instructions" standard.traceInstructions).isTruthy
      randomSeed := field "random_seed" standard.randomSeed }
  | _ => .error .notAnObject

/-- The settings as a JSON object; the origin is written as an address. -/
def toJson (s : Settings) : Except Error Json := do
  let origin ← (Conversion.addressText s.programOrigin).mapError .conversion
  return .ofMembers [("name", s.name), ("timer_period_ms", s.timerPeriod),
    ("program_origin", .text origin), ("trace_instructions", s.traceInstructions),
    ("random_seed", s.randomSeed)]

/-- The text of the settings file. -/
def save (s : Settings) : Except Error String := s.toJson.map (Json.render .indented)

/-- The settings of a file with the given text. -/
def load (limits : Limits) (text : String) : Except Error Settings :=
  match Json.parse limits text.toList with
  | .ok value => ofJson limits value
  | .error e => .error (.unreadable e)

/-- Whether two settings agree, field by field and by value. -/
def agree (s t : Settings) : Bool :=
  s.name.equals t.name && s.timerPeriod.equals t.timerPeriod &&
    s.programOrigin.equals t.programOrigin && s.traceInstructions.equals t.traceInstructions &&
    s.randomSeed.equals t.randomSeed

/-! ### What a machine takes from its settings -/

/-- The setup of a machine: its origin has to be an integer, and its period loses its fraction. -/
def setup (s : Settings) : Except Error Setup := do
  let period ← (Conversion.integer .unlimited s.timerPeriod).mapError .conversion
  let origin ← (Conversion.exactInteger s.programOrigin).mapError .conversion
  if h : 0 < period then
    return ⟨period, h, origin, s.traceInstructions.isTruthy⟩
  else .error (.periodNotPositive s.timerPeriod)

/-- The hash of a finite double: its value modulo the prime `2 ^ 61 - 1`, with its sign, as a number
of 64 bits. The value `-1` is taken by failures, so `-2` stands for it. -/
def doubleHash (negative : Bool) (mantissa : Nat) (exponent : Int) : Nat :=
  let residue : Int := (mantissa <<< (exponent % 61).toNat % 0x1FFFFFFFFFFFFFFF : Nat)
  let signed := if negative then -residue else residue
  ((if signed = -1 then -2 else signed) % 0x10000000000000000).toNat

/-- The number that seeds the generator for a seed in the settings. The sign of an integer does not
count, a double is hashed, and a text is its own bytes followed by their digest, so a text without
bytes is no seed. -/
def seedNumber : Json → Except Conversion.Error Nat
  | .bool b => .ok (if b then 1 else 0)
  | .number (.int n) => .ok n.natAbs
  | .number (.double (.finite negative m e)) => .ok (doubleHash negative m e)
  | .number (.double (.infinite negative)) => .ok (if negative then 0x10000000000000000 - 314159 else 314159)
  | .number (.double .nan) => .ok 0
  | .string units =>
    match CodeUnit.toString? units with
    | some text =>
      let bytes := text.toUTF8.toList
      .ok (Digest.numberOf (bytes ++ Digest.sha512 bytes))
    | none => .error .unpaired
  | _ => .error .wrongKind

/-- The source of random bytes of a machine: seeded by the seed, if there is one. -/
def source (s : Settings) : Except Error RandomSource :=
  match s.randomSeed with
  | .null => .ok .unseeded
  | seed => (seedNumber seed).map (.twister ∘ Twister.ofSeed) |>.mapError .conversion

end Settings

end Chip8
