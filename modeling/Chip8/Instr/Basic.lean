import Chip8.Word

/-!
# The instruction set

`Instr` is an instruction together with its operands. The last nibble of a register comparison and
the middle nibbles of the instructions without operands are not part of it. What an instruction does
is a function of its `Instr`, so two words that decode to the same one behave alike. A shift names a
second register like the other operations on registers, and does not use it (`Instr.essential`).

`Opcode` names the thirty-four instructions without their operands.
-/

namespace Chip8

/-- The two-operand operations on registers. -/
inductive Alu
  /-- The second operand. -/
  | copy
  | or
  | and
  | xor
  /-- The sum; the flag is the carry. -/
  | add
  /-- The first operand less the second; the flag tells whether the first is the greater. -/
  | sub
  /-- The second operand less the first; the flag tells whether the second is the greater. -/
  | subn
  /-- Half of the first operand; the flag is the bit that drops out. -/
  | shr
  /-- Twice the first operand; the flag is the bit that drops out. -/
  | shl
  deriving DecidableEq, Repr

/-- An instruction with the operands that it uses. -/
inductive Instr
  /-- Blank the screen. -/
  | clear
  /-- Go back to the latest return address. -/
  | ret
  /-- Go to `target`. -/
  | jump (target : Target)
  /-- Go to `target` and remember the way back. -/
  | call (target : Target)
  /-- Skip the next instruction if `Vx = nn` (`equal`) or if `Vx ≠ nn` (not `equal`). -/
  | skipByte (equal : Bool) (x : RegIndex) (nn : Byte)
  /-- Skip the next instruction if `Vx = Vy` (`equal`) or if `Vx ≠ Vy` (not `equal`). -/
  | skipReg (equal : Bool) (x y : RegIndex)
  /-- Skip the next instruction if the key that `Vx` names is down (`down`) or up (not `down`). -/
  | skipKey (down : Bool) (x : RegIndex)
  /-- `Vx := nn`. -/
  | loadByte (x : RegIndex) (nn : Byte)
  /-- `Vx := Vx + nn`, without a flag. -/
  | addByte (x : RegIndex) (nn : Byte)
  /-- `Vx` becomes the result of `op` on `Vx` and `Vy`. -/
  | alu (op : Alu) (x y : RegIndex)
  /-- `I := target`. -/
  | loadIndex (target : Target)
  /-- Go to `target + V0`. -/
  | jumpOffset (target : Target)
  /-- `Vx` becomes a random byte masked with `nn`. -/
  | random (x : RegIndex) (nn : Byte)
  /-- Draw the sprite of `rows` bytes at `I`, its top left corner at column `Vx` and row `Vy`. -/
  | draw (x y : RegIndex) (rows : Fin 16)
  /-- `Vx` becomes the delay counter. -/
  | readDelay (x : RegIndex)
  /-- Wait until a key is down and put its number into `Vx`. -/
  | awaitKey (x : RegIndex)
  /-- The delay counter becomes `Vx`. -/
  | setDelay (x : RegIndex)
  /-- The sound counter becomes `Vx`. -/
  | setSound (x : RegIndex)
  /-- `I := I + Vx`; the flag tells whether the sum has more than twelve bits. -/
  | addIndex (x : RegIndex)
  /-- `I` becomes the address of the glyph of `Vx`. -/
  | glyph (x : RegIndex)
  /-- The three decimal digits of `Vx` go to memory at `I`. -/
  | digits (x : RegIndex)
  /-- `V0` to `Vx` go to memory at `I`. -/
  | store (x : RegIndex)
  /-- `V0` to `Vx` come from memory at `I`. -/
  | fetch (x : RegIndex)
  deriving DecidableEq, Repr

/-- The instructions by name, without operands. -/
inductive Opcode
  | cls | ret | jp | call | seImm | sneImm | seReg | ldImm | addImm
  | ldReg | or | and | xor | addReg | sub | shr | subn | shl
  | sneReg | ldI | jpV0 | rnd | drw | skp | sknp
  | ldVxDt | ldVxK | ldDtVx | ldStVx | addI | ldF | ldB | ldMemVx | ldVxMem
  deriving DecidableEq, Repr

namespace Opcode

/-- Every opcode, in the order of the leading nibble. -/
def all : List Opcode :=
  [cls, ret, jp, call, seImm, sneImm, seReg, ldImm, addImm,
    ldReg, or, and, xor, addReg, sub, shr, subn, shl,
    sneReg, ldI, jpV0, rnd, drw, skp, sknp,
    ldVxDt, ldVxK, ldDtVx, ldStVx, addI, ldF, ldB, ldMemVx, ldVxMem]

/-- The name of an opcode: its mnemonic, and the kinds of its operands where several opcodes share
the mnemonic. -/
def name : Opcode → String
  | cls => "CLS"
  | ret => "RET"
  | jp => "JP"
  | call => "CALL"
  | seImm => "SE_IMM"
  | sneImm => "SNE_IMM"
  | seReg => "SE_REG"
  | ldImm => "LD_IMM"
  | addImm => "ADD_IMM"
  | ldReg => "LD_REG"
  | or => "OR"
  | and => "AND"
  | xor => "XOR"
  | addReg => "ADD_REG"
  | sub => "SUB"
  | shr => "SHR"
  | subn => "SUBN"
  | shl => "SHL"
  | sneReg => "SNE_REG"
  | ldI => "LD_I"
  | jpV0 => "JP_V0"
  | rnd => "RND"
  | drw => "DRW"
  | skp => "SKP"
  | sknp => "SKNP"
  | ldVxDt => "LD_VX_DT"
  | ldVxK => "LD_VX_K"
  | ldDtVx => "LD_DT_VX"
  | ldStVx => "LD_ST_VX"
  | addI => "ADD_I"
  | ldF => "LD_F"
  | ldB => "LD_B"
  | ldMemVx => "LD_MEM_VX"
  | ldVxMem => "LD_VX_MEM"

/-- The opcode of a given name. -/
def ofName? (s : String) : Option Opcode :=
  all.find? fun op ↦ op.name == s

/-- The list of all opcodes leaves none out. -/
theorem mem_all (op : Opcode) : op ∈ all := by
  cases op <;> decide

end Opcode

/-- The opcode of the operation on two registers. -/
def Alu.opcode : Alu → Opcode
  | copy => .ldReg
  | or => .or
  | and => .and
  | xor => .xor
  | add => .addReg
  | sub => .sub
  | subn => .subn
  | shr => .shr
  | shl => .shl

/-- The opcode of an instruction. -/
def Instr.opcode : Instr → Opcode
  | clear => .cls
  | ret => .ret
  | jump _ => .jp
  | call _ => .call
  | skipByte true .. => .seImm
  | skipByte false .. => .sneImm
  | skipReg true .. => .seReg
  | skipReg false .. => .sneReg
  | skipKey true _ => .skp
  | skipKey false _ => .sknp
  | loadByte .. => .ldImm
  | addByte .. => .addImm
  | alu op .. => op.opcode
  | loadIndex _ => .ldI
  | jumpOffset _ => .jpV0
  | random .. => .rnd
  | draw .. => .drw
  | readDelay _ => .ldVxDt
  | awaitKey _ => .ldVxK
  | setDelay _ => .ldDtVx
  | setSound _ => .ldStVx
  | addIndex _ => .addI
  | glyph _ => .ldF
  | digits _ => .ldB
  | store _ => .ldMemVx
  | fetch _ => .ldVxMem

/-- The instruction with the operands that it uses. A shift uses its first register only, which
stands for the second one too. -/
def Instr.essential : Instr → Instr
  | alu .shr x _ => .alu .shr x x
  | alu .shl x _ => .alu .shl x x
  | i => i

end Chip8
