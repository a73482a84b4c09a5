import Chip8.Json.Basic
import Chip8.Text.Hex
import Chip8.Text.Printable

/-!
# Values in messages

The text that stands for a value in a message (`Json.display`): words are capitalised, and a text
stands for itself. Inside an array or an object a text is quoted, so that it can be told from the
rest; there a character that is not printable is written by its code point.
-/

namespace Chip8.Json

/-- The quotation mark of a text: a double one if that saves escapes. -/
def quoteOf (units : List CodeUnit) : CodeUnit :=
  let single : CodeUnit := 0x27
  let double : CodeUnit := 0x22
  if single ∈ units ∧ double ∉ units then double else single

/-- A character that is written otherwise: a backslash and what names the character. -/
def backslashed (name : String) : List CodeUnit := CodeUnit.ofString ("\\" ++ name)

/-- A number in lower-case hexadecimal digits. -/
def lowerHex (width n : Nat) : String :=
  String.ofList (Text.padLeft width '0' ((Text.digits 16 n).map Char.toLower))

/-- A character written by its code point, in two, four or eight digits. -/
def numbered (codePoint : Nat) : List CodeUnit :=
  if codePoint < 0x100 then backslashed ("x" ++ lowerHex 2 codePoint)
  else if codePoint < 0x10000 then backslashed ("u" ++ lowerHex 4 codePoint)
  else backslashed ("U" ++ lowerHex 8 codePoint)

/-- One character of a quoted text. -/
def quotedCharacter (quote : CodeUnit) (units : List CodeUnit) : List CodeUnit :=
  let codePoint := CodeUnit.codePoint units
  if units = [quote] ∨ units = [0x5C] then backslashed "" ++ units
  else if codePoint = 0x0A then backslashed "n"
  else if codePoint = 0x0D then backslashed "r"
  else if codePoint = 0x09 then backslashed "t"
  else if Text.isPrintable codePoint then units
  else numbered codePoint

/-- A text in quotation marks. -/
def quoted (units : List CodeUnit) : List CodeUnit :=
  let quote := quoteOf units
  [quote] ++ (CodeUnit.split units).flatMap (quotedCharacter quote) ++ [quote]

/-- What stands between the parts of an array or an object. -/
def separator : List CodeUnit := CodeUnit.ofString ", "

mutual

/-- A value as a part of another one. -/
def displayInside : Json → List CodeUnit
  | null => CodeUnit.ofString "None"
  | bool true => CodeUnit.ofString "True"
  | bool false => CodeUnit.ofString "False"
  | number n => CodeUnit.ofString n.text
  | string units => quoted units
  | array items => CodeUnit.ofString "[" ++ displayItems items ++ CodeUnit.ofString "]"
  | object members =>
    CodeUnit.ofString "\x7b" ++ displayMembers members ++ CodeUnit.ofString "\x7d"

/-- The items of an array. -/
def displayItems : List Json → List CodeUnit
  | [] => []
  | [v] => displayInside v
  | v :: w :: rest => displayInside v ++ separator ++ displayItems (w :: rest)

/-- The members of an object. -/
def displayMembers : List (List CodeUnit × Json) → List CodeUnit
  | [] => []
  | [(k, v)] => quoted k ++ CodeUnit.ofString ": " ++ displayInside v
  | (k, v) :: m :: rest =>
    quoted k ++ CodeUnit.ofString ": " ++ displayInside v ++ separator ++ displayMembers (m :: rest)

end

/-- The text that stands for a value in a message. -/
def display : Json → List CodeUnit
  | string units => units
  | value => displayInside value

end Chip8.Json
