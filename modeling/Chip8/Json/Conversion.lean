import Chip8.Json.Basic
import Chip8.Text.Hex
import Chip8.Text.HexBytes
import Chip8.Text.IntegerLiteral
import Chip8.Text.Limits

/-!
# Converting values

How a value becomes an integer, how it is written in hexadecimal and what values it consists of.
Each can fail for the kind of the value (`Conversion.Error.wrongKind`) or for the value itself.

An integer argument is either converted, so that a double loses its fraction and a text is read
(`Conversion.integer`), or it has to be an integer already (`Conversion.exactInteger`). Truth values
are one and zero in both.
-/

namespace Chip8.Conversion

/-- Why a value could not be converted. -/
inductive Error
  /-- Values of this kind are never converted. -/
  | wrongKind
  /-- The kind is right, but this value denotes nothing. -/
  | badValue
  /-- The number has no whole part. -/
  | number (e : Number.Error)
  /-- The text holds half of a pair, so there are no bytes for it. -/
  | unpaired
  deriving DecidableEq, Repr

/-- The whole number of a value: numbers lose their fraction, truth values are one and zero, and
text is read in base ten, with no more digits than the limit. -/
def integer (limits : Limits) : Json → Except Error Int
  | .bool b => .ok (if b then 1 else 0)
  | .number n => n.whole.mapError .number
  | .string units =>
    (Text.integer? limits.digits 10 (CodeUnit.toChars units)).elim (.error .badValue) .ok
  | _ => .error .wrongKind

/-- The origin that a value of a settings file means: text is read in base sixteen, and any other
value stands for itself. In base sixteen digits are not limited. -/
def origin : Json → Except Error Json
  | .string units =>
    (Text.integer? none 16 (CodeUnit.toChars units)).elim (.error .badValue) (.ok ∘ Json.int)
  | value => .ok value

/-- The number that a value is, without conversion. -/
def exactNumber (value : Json) : Except Error Number := value.asNumber?.elim (.error .wrongKind) .ok

/-- The integer that a value is, without conversion. -/
def exactInteger (value : Json) : Except Error Int :=
  match value.asNumber? with
  | some (.int n) => .ok n
  | _ => .error .wrongKind

/-- A value in hexadecimal, at least `width` characters wide. A double and a text could be written,
but not in hexadecimal. -/
def hexText (width : Nat) : Json → Except Error String
  | .number (.double _) => .error .badValue
  | .string _ => .error .badValue
  | value => (exactInteger value).map (Text.hex width)

/-- A value written as an address: `0x` and at least three hexadecimal digits. -/
def addressText (value : Json) : Except Error String := (hexText 3 value).map ("0x" ++ ·)

/-- The values that a value consists of: the items of an array, the characters of a text, the keys
of an object. -/
def items : Json → Except Error (List Json)
  | .array items => .ok items
  | .string units => .ok ((CodeUnit.split units).map .string)
  | .object members => .ok (members.map fun (key, _) ↦ .string key)
  | _ => .error .wrongKind

/-- The bytes that a text of hexadecimal digits denotes. -/
def bytes : Json → Except Error (List Byte)
  | .string units => (Text.bytes? (CodeUnit.toChars units)).elim (.error .badValue) .ok
  | _ => .error .wrongKind

@[simp] theorem exactInteger_int (n : Int) : exactInteger (.int n) = .ok n := rfl

@[simp] theorem hexText_int (width : Nat) (n : Int) :
    hexText width (.int n) = .ok (Text.hex width n) := rfl

end Chip8.Conversion
