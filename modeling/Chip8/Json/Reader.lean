import Chip8.Json.Basic
import Chip8.Text.HexBytes
import Chip8.Text.Limits

/-!
# Reading JSON

A reader for the standard grammar: blanks are space, tab, line feed and carriage return; a string
holds no raw control characters; the last of several members with one key counts. A number with a
fraction or an exponent is a double, any other is an integer of any size. Beyond the standard the
words `NaN`, `Infinity` and `-Infinity` are numbers, as the writer uses them.

The reader may be told to take only so much (`Limits`). It reads from left to right and stops at the
first thing that it refuses, so a text that is both malformed and too large is refused for what
comes first.

Every function takes characters from the front and answers what it read with the rest. The
recursion over nested values is bounded by `fuel`, which `parse` takes from the length of the text:
between two uses of it at least one character is read.
-/

namespace Chip8.Json

/-- Why a text was not read. -/
inductive Error
  /-- The text is no JSON. -/
  | malformed
  /-- An integer has more digits than the limit. -/
  | tooLong
  /-- More arrays and objects lie inside each other than the limit. -/
  | tooDeep
  deriving DecidableEq, Repr

/-- A part of a text that has to be there. -/
def required {α : Type} : Option α → Except Error α
  | some a => .ok a
  | none => .error .malformed

/-- The characters after the blanks in front. -/
def skipBlanks (cs : List Char) : List Char :=
  cs.dropWhile fun c ↦ c == ' ' || c == '\t' || c == '\n' || c == '\r'

/-- The code unit of four hexadecimal digits. -/
def unitOf? (a b c d : Char) : Option CodeUnit := do
  let ds ← [a, b, c, d].mapM Text.hexValue?
  return BitVec.ofNat 16 (Text.valueOf 16 ds)

/-- The character of a short escape. -/
def shortEscape? (c : Char) : Option CodeUnit :=
  match c with
  | '"' => some 0x22
  | '\\' => some 0x5C
  | '/' => some 0x2F
  | 'b' => some 0x08
  | 'f' => some 0x0C
  | 'n' => some 0x0A
  | 'r' => some 0x0D
  | 't' => some 0x09
  | _ => none

/-- The rest of a string after its opening quote. -/
def stringBody : List Char → Option (List CodeUnit × List Char)
  | [] => none
  | '"' :: rest => some ([], rest)
  | '\\' :: 'u' :: a :: b :: c :: d :: rest => do
    let u ← unitOf? a b c d
    let (us, rest) ← stringBody rest
    return (u :: us, rest)
  | '\\' :: c :: rest => do
    let u ← shortEscape? c
    let (us, rest) ← stringBody rest
    return (u :: us, rest)
  | c :: rest =>
    if c.toNat < 32 ∨ c = '\\' then none
    else do
      let (us, rest) ← stringBody rest
      return (CodeUnit.ofChar c ++ us, rest)

/-- The digits in front. -/
def takeDigits (cs : List Char) : List Char × List Char :=
  (cs.takeWhile Char.isDigit, cs.dropWhile Char.isDigit)

/-- The number of a list of decimal digits. -/
def decimalValue (ds : List Char) : Nat := Text.valueOf 10 (ds.map fun c ↦ c.toNat - 48)

/-- The digits of a whole part: a zero alone, or digits that do not start with zero. -/
def wholePart : List Char → Option (List Char × List Char)
  | '0' :: rest => some (['0'], rest)
  | cs =>
    let (ds, rest) := takeDigits cs
    if ds.isEmpty then none else some (ds, rest)

/-- The digits after a point, if a point and at least one digit follow. -/
def fractionPart : List Char → Option (List Char × List Char)
  | '.' :: cs =>
    let (ds, rest) := takeDigits cs
    if ds.isEmpty then none else some (ds, rest)
  | _ => none

/-- The digits of an exponent after its sign. -/
def exponentDigits (cs : List Char) : Option (Nat × List Char) :=
  let (ds, rest) := takeDigits cs
  if ds.isEmpty then none else some (decimalValue ds, rest)

/-- A signed exponent, if its mark, a sign at most and at least one digit follow. -/
def exponentPart : List Char → Option (Int × List Char)
  | c :: cs =>
    if c = 'e' ∨ c = 'E' then
      match cs with
      | '-' :: ds => (exponentDigits ds).map fun (n, rest) ↦ (-(n : Int), rest)
      | '+' :: ds => (exponentDigits ds).map fun (n, rest) ↦ ((n : Int), rest)
      | ds => (exponentDigits ds).map fun (n, rest) ↦ ((n : Int), rest)
    else none
  | [] => none

/-- A number after its sign. Only the digits of an integer are limited. -/
def unsigned (limits : Limits) (negative : Bool) (cs : List Char) :
    Except Error (Json × List Char) := do
  let (whole, rest) ← required (wholePart cs)
  let fraction := fractionPart rest
  let rest := fraction.elim rest (·.2)
  let exponent := exponentPart rest
  let rest := exponent.elim rest (·.2)
  if fraction.isNone && exponent.isNone then
    if Limits.allows limits.digits whole.length then
      let n : Int := decimalValue whole
      return (int (if negative then -n else n), rest)
    else throw .tooLong
  else
    let digits := fraction.elim [] (·.1)
    let mantissa := decimalValue (whole ++ digits)
    let e := exponent.elim 0 (·.1)
    return (number (.double (.ofDecimal negative mantissa (e - digits.length))), rest)

/-- A value that is written as a given word in front. -/
def word (text : String) (value : Json) (cs : List Char) : Except Error (Json × List Char) :=
  if text.toList.isPrefixOf cs then .ok (value, cs.drop text.length) else .error .malformed

/-- A value that is no string, array or object. -/
def scalar (limits : Limits) (cs : List Char) : Except Error (Json × List Char) :=
  match cs with
  | '-' :: 'I' :: _ => word "-Infinity" (number (.double (.infinite true))) cs
  | '-' :: rest => unsigned limits true rest
  | 'I' :: _ => word "Infinity" (number (.double (.infinite false))) cs
  | 'N' :: _ => word "NaN" (number (.double .nan)) cs
  | 'n' :: _ => word "null" null cs
  | 't' :: _ => word "true" (bool true) cs
  | 'f' :: _ => word "false" (bool false) cs
  | _ => unsigned limits false cs

/-- A key with its colon, up to the value. -/
def memberKey (cs : List Char) : Option (List CodeUnit × List Char) :=
  match cs with
  | '"' :: rest => do
    let (key, rest) ← stringBody rest
    match skipBlanks rest with
    | ':' :: rest => some (key, skipBlanks rest)
    | _ => none
  | _ => none

/-- The limits inside one more array or object. -/
def enter (limits : Limits) : Except Error Limits :=
  match limits.depth with
  | none => .ok limits
  | some 0 => .error .tooDeep
  | some (depth + 1) => .ok { limits with depth := some depth }

mutual

/-- The value in front. -/
def value (fuel : Nat) (limits : Limits) (cs : List Char) : Except Error (Json × List Char) :=
  match fuel with
  | 0 => .error .malformed
  | fuel + 1 =>
    match cs with
    | '"' :: rest => (required (stringBody rest)).map fun (us, rest) ↦ (string us, rest)
    | '[' :: rest => do
      let limits ← enter limits
      match skipBlanks rest with
      | ']' :: rest => return (array [], rest)
      | rest =>
        let (vs, rest) ← items fuel limits rest
        return (array vs, rest)
    | '\x7b' :: rest => do
      let limits ← enter limits
      match skipBlanks rest with
      | '\x7d' :: rest => return (object [], rest)
      | rest =>
        let (ms, rest) ← members fuel limits [] rest
        return (object ms, rest)
    | cs => scalar limits cs

/-- The items of an array up to its closing bracket, at least one. -/
def items (fuel : Nat) (limits : Limits) (cs : List Char) :
    Except Error (List Json × List Char) :=
  match fuel with
  | 0 => .error .malformed
  | fuel + 1 => do
    let (v, rest) ← value fuel limits cs
    match skipBlanks rest with
    | ']' :: rest => return ([v], rest)
    | ',' :: rest =>
      let (vs, rest) ← items fuel limits (skipBlanks rest)
      return (v :: vs, rest)
    | _ => throw .malformed

/-- The members of an object up to its closing brace, at least one, added to those read before. -/
def members (fuel : Nat) (limits : Limits) (sofar : List (List CodeUnit × Json))
    (cs : List Char) : Except Error (List (List CodeUnit × Json) × List Char) :=
  match fuel with
  | 0 => .error .malformed
  | fuel + 1 => do
    let (key, rest) ← required (memberKey cs)
    let (v, rest) ← value fuel limits rest
    match skipBlanks rest with
    | '\x7d' :: rest => return (insert key v sofar, rest)
    | ',' :: rest => members fuel limits (insert key v sofar) (skipBlanks rest)
    | _ => throw .malformed

end

/-- The value of a whole text: one value, with blanks around it at most. -/
def parse (limits : Limits) (text : List Char) : Except Error Json := do
  let (v, rest) ← value (2 * text.length + 2) limits (skipBlanks text)
  if (skipBlanks rest).isEmpty then return v else throw .malformed

end Chip8.Json
