import Chip8.Instr.Basic

/-!
# Decoding

The leading nibble of a word selects a family. Most families are one instruction; the families `0`,
`E` and `F` select by the last two nibbles and the family `8` by the last one. A word that selects
nothing decodes to `none`, and what that means is left to the machine.
-/

namespace Chip8

/-- The instructions without operands; the second nibble of their words does not count. -/
def decodeSystem (w : Word) : Option Instr :=
  match (Word.nn w).toNat with
  | 0xE0 => some .clear
  | 0xEE => some .ret
  | _ => none

/-- The operations on two registers. -/
def decodeArithmetic (w : Word) : Option Instr :=
  match (Word.n w).val with
  | 0x0 => some (.alu .copy (Word.x w) (Word.y w))
  | 0x1 => some (.alu .or (Word.x w) (Word.y w))
  | 0x2 => some (.alu .and (Word.x w) (Word.y w))
  | 0x3 => some (.alu .xor (Word.x w) (Word.y w))
  | 0x4 => some (.alu .add (Word.x w) (Word.y w))
  | 0x5 => some (.alu .sub (Word.x w) (Word.y w))
  | 0x6 => some (.alu .shr (Word.x w) (Word.y w))
  | 0x7 => some (.alu .subn (Word.x w) (Word.y w))
  | 0xE => some (.alu .shl (Word.x w) (Word.y w))
  | _ => none

/-- The skips on a key. -/
def decodeKey (w : Word) : Option Instr :=
  match (Word.nn w).toNat with
  | 0x9E => some (.skipKey true (Word.x w))
  | 0xA1 => some (.skipKey false (Word.x w))
  | _ => none

/-- The instructions on timers, keys, the index register and memory. -/
def decodeTransfer (w : Word) : Option Instr :=
  match (Word.nn w).toNat with
  | 0x07 => some (.readDelay (Word.x w))
  | 0x0A => some (.awaitKey (Word.x w))
  | 0x15 => some (.setDelay (Word.x w))
  | 0x18 => some (.setSound (Word.x w))
  | 0x1E => some (.addIndex (Word.x w))
  | 0x29 => some (.glyph (Word.x w))
  | 0x33 => some (.digits (Word.x w))
  | 0x55 => some (.store (Word.x w))
  | 0x65 => some (.fetch (Word.x w))
  | _ => none

/-- The instruction that a word encodes, if it encodes one. -/
def decode (w : Word) : Option Instr :=
  match Word.family w with
  | 0x0 => decodeSystem w
  | 0x1 => some (.jump (Word.nnn w))
  | 0x2 => some (.call (Word.nnn w))
  | 0x3 => some (.skipByte true (Word.x w) (Word.nn w))
  | 0x4 => some (.skipByte false (Word.x w) (Word.nn w))
  | 0x5 => some (.skipReg true (Word.x w) (Word.y w))
  | 0x6 => some (.loadByte (Word.x w) (Word.nn w))
  | 0x7 => some (.addByte (Word.x w) (Word.nn w))
  | 0x8 => decodeArithmetic w
  | 0x9 => some (.skipReg false (Word.x w) (Word.y w))
  | 0xA => some (.loadIndex (Word.nnn w))
  | 0xB => some (.jumpOffset (Word.nnn w))
  | 0xC => some (.random (Word.x w) (Word.nn w))
  | 0xD => some (.draw (Word.x w) (Word.y w) (Word.n w))
  | 0xE => decodeKey w
  | 0xF => decodeTransfer w
  | _ => none

/-- The opcode of the instruction that a word encodes. -/
def identify (w : Word) : Option Opcode := (decode w).map Instr.opcode

@[simp] theorem identify_eq_none_iff (w : Word) : identify w = none ↔ decode w = none := by
  simp [identify]

end Chip8
