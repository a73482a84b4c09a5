import Chip8.Fault
import Chip8.Json.Conversion
import Chip8.Json.Display

/-!
# Accounts of faults

A host may tell of a fault of its own, and in doing so it may name anything: an account is a fault
whose parts are JSON values. It is worded as a fault is, so a part that stands in hexadecimal has to
be an integer, and an account with another value there cannot be told (`Account.message`). Every
fault has an account (`Account.ofFault`), with the same text.
-/

namespace Chip8.Host

/-- A fault with any values as its parts. -/
inductive Account
  | outOfRange (what index limit : Json)
  /-- The address is `null` where it is not known. -/
  | unknownInstruction (word address : Json)
  | stackOverflow (address depth : Json)
  | stackUnderflow (address : Json)

namespace Account

/-- The kind of fault that an account tells of. -/
def kind : Account → Fault.Kind
  | outOfRange .. => .outOfRange
  | unknownInstruction .. => .unknownInstruction
  | stackOverflow .. => .stackOverflow
  | stackUnderflow .. => .stackUnderflow

/-- The account of some values, if their number is right for the kind of fault. An address that is
not given is not known. -/
def ofParts? : Fault.Kind → List Json → Option Account
  | .outOfRange, [what, index, limit] => some (outOfRange what index limit)
  | .unknownInstruction, [word] => some (unknownInstruction word .null)
  | .unknownInstruction, [word, address] => some (unknownInstruction word address)
  | .stackOverflow, [address, depth] => some (stackOverflow address depth)
  | .stackUnderflow, [address] => some (stackUnderflow address)
  | _, _ => none

/-- The parts of an account by name. -/
def parts : Account → List (String × Json)
  | outOfRange what index limit => [("what", what), ("index", index), ("limit", limit)]
  | unknownInstruction word address => [("word", word), ("address", address)]
  | stackOverflow address depth => [("address", address), ("depth", depth)]
  | stackUnderflow address => [("address", address)]

/-- The text of an address, if it is known. -/
def addressText? : Json → Except Conversion.Error (Option String)
  | .null => .ok none
  | address => (Conversion.hexText 3 address).map some

/-- The text of an account, in the words of faults. -/
def message : Account → Except Conversion.Error (List CodeUnit)
  | outOfRange what index limit => do
    let index ← Conversion.hexText 0 index
    let limit ← Conversion.hexText 0 limit
    return what.display ++ CodeUnit.ofString (Fault.rangeText index limit)
  | unknownInstruction word address => do
    let address ← addressText? address
    let word ← Conversion.hexText 4 word
    return CodeUnit.ofString (Fault.unknownText word address)
  | stackOverflow address depth => do
    let address ← Conversion.hexText 3 address
    return CodeUnit.ofString (Fault.overflowText address) ++ depth.display ++
      CodeUnit.ofString Fault.overflowEnd
  | stackUnderflow address => do
    let address ← Conversion.hexText 3 address
    return CodeUnit.ofString (Fault.underflowText address)

/-- The account of a fault. -/
def ofFault : Fault → Account
  | .outOfRange what index limit => outOfRange (.text what.name) (.int index) (.int limit)
  | .unknownInstruction word address =>
    unknownInstruction (.int word) (address.elim .null .int)
  | .stackOverflow address depth => stackOverflow (.int address) (.int depth)
  | .stackUnderflow address => stackUnderflow (.int address)

@[simp] theorem kind_ofFault (f : Fault) : (ofFault f).kind = f.kind := by
  cases f <;> rfl

/-- The account of a fault can be told, in the words of the fault. -/
@[simp] theorem message_ofFault (f : Fault) :
    (ofFault f).message = .ok (CodeUnit.ofString f.message) := by
  cases f with
  | outOfRange what index limit =>
    simp only [ofFault, message, Conversion.hexText_int, Fault.message, CodeUnit.ofString_append]
    rfl
  | unknownInstruction word address =>
    cases address with
    | none => rfl
    | some address => rfl
  | stackOverflow address depth =>
    simp only [ofFault, message, Conversion.hexText_int, Fault.message, CodeUnit.ofString_append]
    rfl
  | stackUnderflow address => rfl

end Account

end Chip8.Host
