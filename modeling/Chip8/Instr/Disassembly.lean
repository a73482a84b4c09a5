import Chip8.Instr.Decode
import Chip8.Text.Hex

/-!
# Disassembly

The text of an instruction in assembler syntax. It shows the operands that the instruction uses, so
a shift is shown with its first register only. A word that is no instruction is shown as data.
-/

namespace Chip8

open Text

/-- The name of a register in assembler syntax. -/
def RegIndex.text (x : RegIndex) : String := "V" ++ hex 1 x.val

/-- The mnemonic of an operation on two registers. -/
def Alu.mnemonic : Alu → String
  | copy => "LD"
  | or => "OR"
  | and => "AND"
  | xor => "XOR"
  | add => "ADD"
  | sub => "SUB"
  | subn => "SUBN"
  | shr => "SHR"
  | shl => "SHL"

namespace Instr

/-- An address operand: three hexadecimal digits. -/
def targetText (t : Target) : String := "0x" ++ hex 3 t.toNat

/-- A byte operand: two hexadecimal digits. -/
def byteText (b : Byte) : String := "0x" ++ hex 2 b.toNat

/-- A mnemonic with one operand. -/
def unary (mnemonic a : String) : String := mnemonic ++ " " ++ a

/-- A mnemonic with two operands. -/
def binary (mnemonic a b : String) : String := mnemonic ++ " " ++ a ++ ", " ++ b

/-- The instruction in assembler syntax. -/
def text : Instr → String
  | clear => "CLS"
  | ret => "RET"
  | jump t => unary "JP" (targetText t)
  | call t => unary "CALL" (targetText t)
  | skipByte equal x nn => binary (if equal then "SE" else "SNE") (RegIndex.text x) (byteText nn)
  | skipReg equal x y =>
    binary (if equal then "SE" else "SNE") (RegIndex.text x) (RegIndex.text y)
  | skipKey down x => unary (if down then "SKP" else "SKNP") (RegIndex.text x)
  | loadByte x nn => binary "LD" (RegIndex.text x) (byteText nn)
  | addByte x nn => binary "ADD" (RegIndex.text x) (byteText nn)
  | alu .shr x _ => unary Alu.shr.mnemonic (RegIndex.text x)
  | alu .shl x _ => unary Alu.shl.mnemonic (RegIndex.text x)
  | alu op x y => binary op.mnemonic (RegIndex.text x) (RegIndex.text y)
  | loadIndex t => binary "LD" "I" (targetText t)
  | jumpOffset t => binary "JP" "V0" (targetText t)
  | random x nn => binary "RND" (RegIndex.text x) (byteText nn)
  | draw x y rows =>
    binary "DRW" (RegIndex.text x) (RegIndex.text y) ++ ", " ++ decimal rows.val
  | readDelay x => binary "LD" (RegIndex.text x) "DT"
  | awaitKey x => binary "LD" (RegIndex.text x) "K"
  | setDelay x => binary "LD" "DT" (RegIndex.text x)
  | setSound x => binary "LD" "ST" (RegIndex.text x)
  | addIndex x => binary "ADD" "I" (RegIndex.text x)
  | glyph x => binary "LD" "F" (RegIndex.text x)
  | digits x => binary "LD" "B" (RegIndex.text x)
  | store x => binary "LD" "[I]" (RegIndex.text x)
  | fetch x => binary "LD" (RegIndex.text x) "[I]"

end Instr

/-- A word in assembler syntax; a word that is no instruction is a data directive. -/
def disassemble (w : Word) : String :=
  match decode w with
  | some i => i.text
  | none => "DW 0x" ++ hex 4 w.toNat

end Chip8
