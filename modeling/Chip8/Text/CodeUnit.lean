/-!
# Text in code units

A text from outside may hold a single half of a surrogate pair, which no `Char` is, so such a text
is the list of its UTF-16 code units. Every `String` is such a list (`CodeUnit.ofString`). The
characters that a list denotes are `CodeUnit.toChars`, with the replacement character for a half
without its partner; `CodeUnit.toString?` is the string of a list in which every half has one, and
only such a list can be put into bytes.
-/

namespace Chip8

/-- A UTF-16 code unit. -/
abbrev CodeUnit := BitVec 16

namespace CodeUnit

/-- The units of one character: one up to `U+FFFF`, else the two halves of a pair. -/
def ofChar (c : Char) : List CodeUnit :=
  let n := c.toNat
  if n < 0x10000 then [BitVec.ofNat 16 n]
  else
    [BitVec.ofNat 16 (0xD800 + (n - 0x10000) / 0x400),
      BitVec.ofNat 16 (0xDC00 + (n - 0x10000) % 0x400)]

/-- The units of a string. -/
def ofString (s : String) : List CodeUnit := s.toList.flatMap ofChar

/-- Whether a unit is the first half of a pair. -/
def isHigh (u : CodeUnit) : Bool := 0xD800 ≤ u.toNat && u.toNat < 0xDC00

/-- Whether a unit is the second half of a pair. -/
def isLow (u : CodeUnit) : Bool := 0xDC00 ≤ u.toNat && u.toNat < 0xE000

/-- The character of a pair of halves. -/
def pair (high low : CodeUnit) : Char :=
  Char.ofNat (0x10000 + (high.toNat - 0xD800) * 0x400 + (low.toNat - 0xDC00))

/-- The character of a unit outside a pair; a half is replaced. -/
def single (u : CodeUnit) : Char :=
  if isHigh u || isLow u then Char.ofNat 0xFFFD else Char.ofNat u.toNat

/-- The characters that a list of units denotes. -/
def toChars : List CodeUnit → List Char
  | [] => []
  | [u] => [single u]
  | u :: v :: rest =>
    if isHigh u && isLow v then pair u v :: toChars rest else single u :: toChars (v :: rest)

/-- The units of each character of a text; a half of a pair that stands alone is a character of its
own. -/
def split : List CodeUnit → List (List CodeUnit)
  | [] => []
  | [u] => [[u]]
  | u :: v :: rest =>
    if isHigh u && isLow v then [u, v] :: split rest else [u] :: split (v :: rest)

/-- The code point of one of the characters of a text. That of a half that stands alone is the half
itself. -/
def codePoint : List CodeUnit → Nat
  | [] => 0
  | [u] => u.toNat
  | high :: low :: _ => (pair high low).toNat

/-- The string that a list of units denotes. -/
def toString (units : List CodeUnit) : String := String.ofList (toChars units)

/-- Whether every half of a pair stands beside its partner. -/
def isPaired : List CodeUnit → Bool
  | [] => true
  | [u] => !(isHigh u || isLow u)
  | u :: v :: rest =>
    if isHigh u && isLow v then isPaired rest else !(isHigh u || isLow u) && isPaired (v :: rest)

/-- The string of a list of units, unless a half stands alone. -/
def toString? (units : List CodeUnit) : Option String :=
  if isPaired units then some (toString units) else none

/-! ### Units of a character -/

/-- A character is no half of a pair. -/
theorem toNat_lt_or_le (c : Char) : c.toNat < 0xD800 ∨ 0xE000 ≤ c.toNat ∧ c.toNat < 0x110000 := by
  have valid := c.valid
  have eq : c.val.toNat = c.toNat := rfl
  simp only [UInt32.isValidChar, Nat.isValidChar] at valid
  omega

/-- Reading the units of a character in front gives that character. -/
theorem toChars_ofChar_append (c : Char) (rest : List CodeUnit) :
    toChars (ofChar c ++ rest) = c :: toChars rest := by
  have range := toNat_lt_or_le c
  by_cases small : c.toNat < 0x10000
  · have unit : (BitVec.ofNat 16 c.toNat).toNat = c.toNat := by
      rw [BitVec.toNat_ofNat]
      omega
    have plain : (isHigh (BitVec.ofNat 16 c.toNat) || isLow (BitVec.ofNat 16 c.toNat)) = false := by
      simp only [isHigh, isLow, unit, Bool.or_eq_false_iff, Bool.and_eq_false_iff,
        decide_eq_false_iff_not]
      omega
    have high : isHigh (BitVec.ofNat 16 c.toNat) = false := (Bool.or_eq_false_iff.1 plain).1
    have value : single (BitVec.ofNat 16 c.toNat) = c := by
      simp [single, plain, unit]
    cases rest with
    | nil => simp [ofChar, small, toChars, value]
    | cons v rest => simp [ofChar, small, toChars, value, high]
  · have first : (BitVec.ofNat 16 (0xD800 + (c.toNat - 0x10000) / 0x400)).toNat =
        0xD800 + (c.toNat - 0x10000) / 0x400 := by
      rw [BitVec.toNat_ofNat]
      omega
    have second : (BitVec.ofNat 16 (0xDC00 + (c.toNat - 0x10000) % 0x400)).toNat =
        0xDC00 + (c.toNat - 0x10000) % 0x400 := by
      rw [BitVec.toNat_ofNat]
      omega
    have isPair : (isHigh (BitVec.ofNat 16 (0xD800 + (c.toNat - 0x10000) / 0x400)) &&
        isLow (BitVec.ofNat 16 (0xDC00 + (c.toNat - 0x10000) % 0x400))) = true := by
      simp only [isHigh, isLow, first, second, Bool.and_eq_true, decide_eq_true_eq]
      omega
    have value : pair (BitVec.ofNat 16 (0xD800 + (c.toNat - 0x10000) / 0x400))
        (BitVec.ofNat 16 (0xDC00 + (c.toNat - 0x10000) % 0x400)) = c := by
      rw [pair, first, second,
        show 0x10000 + (0xD800 + (c.toNat - 0x10000) / 0x400 - 0xD800) * 0x400 +
          (0xDC00 + (c.toNat - 0x10000) % 0x400 - 0xDC00) = c.toNat by omega]
      simp
    simp only [ofChar, small, if_false, List.cons_append, List.nil_append, toChars, isPair, if_true,
      value]

/-- The units of a string denote its characters. -/
@[simp] theorem toChars_ofString (s : String) : toChars (ofString s) = s.toList := by
  have key : ∀ cs : List Char, toChars (cs.flatMap ofChar) = cs := by
    intro cs
    induction cs with
    | nil => rfl
    | cons c cs ih => rw [List.flatMap_cons, toChars_ofChar_append, ih]
  exact key s.toList

/-- The units of two strings in sequence are the units of the strings in sequence. -/
theorem ofString_append (s t : String) : ofString (s ++ t) = ofString s ++ ofString t := by
  simp [ofString]

/-- Two strings with the same units are the same. -/
theorem ofString_injective {s t : String} (h : ofString s = ofString t) : s = t := by
  have chars := congrArg toChars h
  rw [toChars_ofString, toChars_ofString] at chars
  exact String.toList_injective chars

end CodeUnit

end Chip8
