import Chip8.Json.Basic

/-!
# Writing JSON

The text of a JSON value in ASCII. Characters outside the printable ASCII range are written as
`\uXXXX`, one escape for each code unit, so a character beyond `U+FFFF` becomes a pair of escapes.
`Layout` tells whether the members stand on lines of their own (`Layout.indented`) or all on one
line (`Layout.line`); empty arrays and objects stay on one line in either.
-/

namespace Chip8.Json

/-- How the parts of a value are set apart. -/
structure Layout where
  /-- The number of blanks that each level adds, if the parts stand on lines of their own. -/
  indent : Option Nat
  /-- What stands between a key and its value. -/
  colon : String

/-- Everything on one line, without blanks. -/
def Layout.line : Layout := ⟨none, ":"⟩

/-- Every part on a line of its own, two blanks deeper than what it is part of. -/
def Layout.indented : Layout := ⟨some 2, ": "⟩

/-- What stands before a part at a level: a new line and the indentation, if there are lines. -/
def Layout.break (layout : Layout) (level : Nat) : List Char :=
  match layout.indent with
  | some width => '\n' :: List.replicate (width * level) ' '
  | none => []

/-- The four hexadecimal digits of a code unit, in lower case. -/
def hexDigits (u : CodeUnit) : List Char :=
  [12, 8, 4, 0].map fun shift ↦ Nat.digitChar (u.toNat >>> shift % 16)

/-- A code unit inside a string: short escapes for the quote, the backslash and five controls. -/
def escape (u : CodeUnit) : List Char :=
  let c := Char.ofNat u.toNat
  if c = '"' then ['\\', '"']
  else if c = '\\' then ['\\', '\\']
  else if c = '\n' then ['\\', 'n']
  else if c = '\r' then ['\\', 'r']
  else if c = '\t' then ['\\', 't']
  else if u.toNat = 12 then ['\\', 'f']
  else if u.toNat = 8 then ['\\', 'b']
  else if 32 ≤ u.toNat ∧ u.toNat < 127 then [c]
  else '\\' :: 'u' :: hexDigits u

/-- A string in quotes. -/
def quote (units : List CodeUnit) : List Char := '"' :: (units.flatMap escape ++ ['"'])

/-- A number: an integer in decimal, a double in its shortest form. -/
def numberText : Number → List Char
  | .int n => (Text.decimal n).toList
  | .double d => (d.textIn Binary64.fileStyle).toList

mutual

/-- The text of a value whose parts stand one level deeper than `level`. -/
def write (layout : Layout) (level : Nat) : Json → List Char
  | null => ['n', 'u', 'l', 'l']
  | bool true => ['t', 'r', 'u', 'e']
  | bool false => ['f', 'a', 'l', 's', 'e']
  | number n => numberText n
  | string units => quote units
  | array [] => ['[', ']']
  | array (item :: rest) =>
    '[' :: (layout.break (level + 1) ++ write layout (level + 1) item ++
      (writeItems layout (level + 1) rest ++ (layout.break level ++ [']'])))
  | object [] => ['\x7b', '\x7d']
  | object ((key, value) :: rest) =>
    '\x7b' :: (layout.break (level + 1) ++ quote key ++ layout.colon.toList ++
      write layout (level + 1) value ++
      (writeMembers layout (level + 1) rest ++ (layout.break level ++ ['\x7d'])))

/-- The text of the items after the first. -/
def writeItems (layout : Layout) (level : Nat) : List Json → List Char
  | [] => []
  | item :: rest =>
    ',' :: (layout.break level ++ write layout level item ++ writeItems layout level rest)

/-- The text of the members after the first. -/
def writeMembers (layout : Layout) (level : Nat) : List (List CodeUnit × Json) → List Char
  | [] => []
  | (key, value) :: rest =>
    ',' :: (layout.break level ++ quote key ++ layout.colon.toList ++ write layout level value ++
      writeMembers layout level rest)

end

/-- The text of a value in a layout. -/
def render (layout : Layout) (value : Json) : String := String.ofList (write layout 0 value)

end Chip8.Json
