import Chip8.Instr.Decode

/-!
# Encodings

The instruction set as a table: which words an opcode has (`Opcode.pattern`), and which instruction
such a word is (`Opcode.instr`). The decoder selects by the leading nibble first and does not go
through the table; `decode_eq_some_iff` says that it agrees with it. A word decodes to an
instruction exactly if an opcode has it, and to the instruction of that opcode.

The second nibble of a word without operands does not count, so each of these two opcodes has
sixteen words.
-/

namespace Chip8

/-- Which words an opcode has. Every pattern fixes the leading nibble. -/
inductive Pattern
  /-- The other nibbles are operands. -/
  | leading (family : Nat)
  /-- The last nibble is fixed. -/
  | nibble (family last : Nat)
  /-- The last two nibbles are fixed. -/
  | byte (family last : Nat)
  deriving DecidableEq, Repr

/-- Whether a word has a pattern. -/
def Pattern.Fits (w : Word) : Pattern → Prop
  | leading family => w.toNat / 0x1000 = family
  | nibble family last => w.toNat / 0x1000 = family ∧ w.toNat % 0x10 = last
  | byte family last => w.toNat / 0x1000 = family ∧ w.toNat % 0x100 = last

instance (w : Word) (p : Pattern) : Decidable (p.Fits w) :=
  match p with
  | .leading _ => inferInstanceAs (Decidable (_ = _))
  | .nibble _ _ => inferInstanceAs (Decidable (_ ∧ _))
  | .byte _ _ => inferInstanceAs (Decidable (_ ∧ _))

namespace Opcode

/-- The words of an opcode. -/
def pattern : Opcode → Pattern
  | cls => .byte 0x0 0xE0
  | ret => .byte 0x0 0xEE
  | jp => .leading 0x1
  | call => .leading 0x2
  | seImm => .leading 0x3
  | sneImm => .leading 0x4
  | seReg => .leading 0x5
  | ldImm => .leading 0x6
  | addImm => .leading 0x7
  | ldReg => .nibble 0x8 0x0
  | or => .nibble 0x8 0x1
  | and => .nibble 0x8 0x2
  | xor => .nibble 0x8 0x3
  | addReg => .nibble 0x8 0x4
  | sub => .nibble 0x8 0x5
  | shr => .nibble 0x8 0x6
  | subn => .nibble 0x8 0x7
  | shl => .nibble 0x8 0xE
  | sneReg => .leading 0x9
  | ldI => .leading 0xA
  | jpV0 => .leading 0xB
  | rnd => .leading 0xC
  | drw => .leading 0xD
  | skp => .byte 0xE 0x9E
  | sknp => .byte 0xE 0xA1
  | ldVxDt => .byte 0xF 0x07
  | ldVxK => .byte 0xF 0x0A
  | ldDtVx => .byte 0xF 0x15
  | ldStVx => .byte 0xF 0x18
  | addI => .byte 0xF 0x1E
  | ldF => .byte 0xF 0x29
  | ldB => .byte 0xF 0x33
  | ldMemVx => .byte 0xF 0x55
  | ldVxMem => .byte 0xF 0x65

/-- Whether a word is one of an opcode. -/
def Fits (op : Opcode) (w : Word) : Prop := op.pattern.Fits w

instance (op : Opcode) (w : Word) : Decidable (op.Fits w) :=
  inferInstanceAs (Decidable (op.pattern.Fits w))

/-- The instruction that a word of an opcode is. -/
def instr (w : Word) : Opcode → Instr
  | cls => .clear
  | ret => .ret
  | jp => .jump (Word.nnn w)
  | call => .call (Word.nnn w)
  | seImm => .skipByte true (Word.x w) (Word.nn w)
  | sneImm => .skipByte false (Word.x w) (Word.nn w)
  | seReg => .skipReg true (Word.x w) (Word.y w)
  | sneReg => .skipReg false (Word.x w) (Word.y w)
  | ldImm => .loadByte (Word.x w) (Word.nn w)
  | addImm => .addByte (Word.x w) (Word.nn w)
  | ldReg => .alu .copy (Word.x w) (Word.y w)
  | or => .alu .or (Word.x w) (Word.y w)
  | and => .alu .and (Word.x w) (Word.y w)
  | xor => .alu .xor (Word.x w) (Word.y w)
  | addReg => .alu .add (Word.x w) (Word.y w)
  | sub => .alu .sub (Word.x w) (Word.y w)
  | subn => .alu .subn (Word.x w) (Word.y w)
  | shr => .alu .shr (Word.x w) (Word.y w)
  | shl => .alu .shl (Word.x w) (Word.y w)
  | ldI => .loadIndex (Word.nnn w)
  | jpV0 => .jumpOffset (Word.nnn w)
  | rnd => .random (Word.x w) (Word.nn w)
  | drw => .draw (Word.x w) (Word.y w) (Word.n w)
  | skp => .skipKey true (Word.x w)
  | sknp => .skipKey false (Word.x w)
  | ldVxDt => .readDelay (Word.x w)
  | ldVxK => .awaitKey (Word.x w)
  | ldDtVx => .setDelay (Word.x w)
  | ldStVx => .setSound (Word.x w)
  | addI => .addIndex (Word.x w)
  | ldF => .glyph (Word.x w)
  | ldB => .digits (Word.x w)
  | ldMemVx => .store (Word.x w)
  | ldVxMem => .fetch (Word.x w)

@[simp] theorem opcode_instr (w : Word) (op : Opcode) : (op.instr w).opcode = op := by
  cases op <;> rfl

end Opcode

/-! ### The fields of a word as numbers -/

theorem Word.family_eq (w : Word) : Word.family w = w.toNat / 0x1000 := by
  rw [family, BitVec.toNat_ushiftRight, Nat.shiftRight_eq_div_pow]

theorem Word.toNat_nn (w : Word) : (Word.nn w).toNat = w.toNat % 0x100 :=
  BitVec.toNat_setWidth 8 w

theorem Word.toNat_nnn (w : Word) : (Word.nnn w).toNat = w.toNat % 0x1000 :=
  BitVec.toNat_setWidth 12 w

theorem Word.val_x (w : Word) : (Word.x w).val = w.toNat / 0x100 % 0x10 := by
  rw [← Nat.shiftRight_eq_div_pow w.toNat 8]
  exact BitVec.extractLsb'_toNat 8 4 w

theorem Word.val_y (w : Word) : (Word.y w).val = w.toNat / 0x10 % 0x10 := by
  rw [← Nat.shiftRight_eq_div_pow w.toNat 4]
  exact BitVec.extractLsb'_toNat 4 4 w

theorem Word.val_n (w : Word) : (Word.n w).val = w.toNat % 0x10 :=
  BitVec.extractLsb'_toNat 0 4 w

/-! ### The decoder and the table -/

variable {w : Word} {i : Instr}

/-- A word of an opcode decodes to the instruction of that opcode. -/
theorem decode_of_fits {op : Opcode} (h : op.Fits w) : decode w = some (op.instr w) := by
  -- One case for each kind of pattern: what it fixes is what the decoder selects by.
  cases op with
  | jp | call | seImm | sneImm | seReg | ldImm | addImm | sneReg | ldI | jpV0 | rnd | drw =>
    have family : Word.family w = _ := (Word.family_eq w).trans h
    simp only [decode, family, Opcode.instr]
  | ldReg | or | and | xor | addReg | sub | shr | subn | shl =>
    have family : Word.family w = _ := (Word.family_eq w).trans h.1
    have last : (Word.n w).val = _ := (Word.val_n w).trans h.2
    simp only [decode, decodeArithmetic, family, last, Opcode.instr]
  | cls | ret | skp | sknp | ldVxDt | ldVxK | ldDtVx | ldStVx | addI | ldF | ldB | ldMemVx
  | ldVxMem =>
    have family : Word.family w = _ := (Word.family_eq w).trans h.1
    have last : (Word.nn w).toNat = _ := (Word.toNat_nn w).trans h.2
    simp only [decode, decodeSystem, decodeKey, decodeTransfer, family, last, Opcode.instr]

/-! A word that decodes is a word of an opcode, family by family. -/

theorem exists_fits_of_decodeSystem (family : w.toNat / 0x1000 = 0x0)
    (h : decodeSystem w = some i) : ∃ op : Opcode, op.Fits w := by
  simp only [decodeSystem, Word.toNat_nn] at h
  split at h
  · next last => exact ⟨.cls, family, last⟩
  · next last => exact ⟨.ret, family, last⟩
  · cases h

theorem exists_fits_of_decodeArithmetic (family : w.toNat / 0x1000 = 0x8)
    (h : decodeArithmetic w = some i) : ∃ op : Opcode, op.Fits w := by
  simp only [decodeArithmetic, Word.val_n] at h
  split at h
  · next last => exact ⟨.ldReg, family, last⟩
  · next last => exact ⟨.or, family, last⟩
  · next last => exact ⟨.and, family, last⟩
  · next last => exact ⟨.xor, family, last⟩
  · next last => exact ⟨.addReg, family, last⟩
  · next last => exact ⟨.sub, family, last⟩
  · next last => exact ⟨.shr, family, last⟩
  · next last => exact ⟨.subn, family, last⟩
  · next last => exact ⟨.shl, family, last⟩
  · cases h

theorem exists_fits_of_decodeKey (family : w.toNat / 0x1000 = 0xE)
    (h : decodeKey w = some i) : ∃ op : Opcode, op.Fits w := by
  simp only [decodeKey, Word.toNat_nn] at h
  split at h
  · next last => exact ⟨.skp, family, last⟩
  · next last => exact ⟨.sknp, family, last⟩
  · cases h

theorem exists_fits_of_decodeTransfer (family : w.toNat / 0x1000 = 0xF)
    (h : decodeTransfer w = some i) : ∃ op : Opcode, op.Fits w := by
  simp only [decodeTransfer, Word.toNat_nn] at h
  split at h
  · next last => exact ⟨.ldVxDt, family, last⟩
  · next last => exact ⟨.ldVxK, family, last⟩
  · next last => exact ⟨.ldDtVx, family, last⟩
  · next last => exact ⟨.ldStVx, family, last⟩
  · next last => exact ⟨.addI, family, last⟩
  · next last => exact ⟨.ldF, family, last⟩
  · next last => exact ⟨.ldB, family, last⟩
  · next last => exact ⟨.ldMemVx, family, last⟩
  · next last => exact ⟨.ldVxMem, family, last⟩
  · cases h

theorem exists_fits_of_decode (h : decode w = some i) : ∃ op : Opcode, op.Fits w := by
  simp only [decode, Word.family_eq] at h
  split at h
  · next family => exact exists_fits_of_decodeSystem family h
  · next family => exact ⟨.jp, family⟩
  · next family => exact ⟨.call, family⟩
  · next family => exact ⟨.seImm, family⟩
  · next family => exact ⟨.sneImm, family⟩
  · next family => exact ⟨.seReg, family⟩
  · next family => exact ⟨.ldImm, family⟩
  · next family => exact ⟨.addImm, family⟩
  · next family => exact exists_fits_of_decodeArithmetic family h
  · next family => exact ⟨.sneReg, family⟩
  · next family => exact ⟨.ldI, family⟩
  · next family => exact ⟨.jpV0, family⟩
  · next family => exact ⟨.rnd, family⟩
  · next family => exact ⟨.drw, family⟩
  · next family => exact exists_fits_of_decodeKey family h
  · next family => exact exists_fits_of_decodeTransfer family h
  · cases h

/-- **The decoder agrees with the table.** -/
theorem decode_eq_some_iff : decode w = some i ↔ ∃ op : Opcode, op.Fits w ∧ op.instr w = i := by
  constructor
  · intro h
    obtain ⟨op, fits⟩ := exists_fits_of_decode h
    exact ⟨op, fits, Option.some.inj ((decode_of_fits fits).symm.trans h)⟩
  · rintro ⟨op, fits, rfl⟩
    exact decode_of_fits fits

/-- A word has one opcode at most. -/
theorem Opcode.eq_of_fits {op op' : Opcode} (h : op.Fits w) (h' : op'.Fits w) : op = op' := by
  have same := Option.some.inj ((decode_of_fits h).symm.trans (decode_of_fits h'))
  rw [← opcode_instr w op, same, opcode_instr]

/-- A word that decodes to nothing is a word of none of the opcodes. -/
theorem decode_eq_none_iff : decode w = none ↔ ∀ op : Opcode, ¬op.Fits w := by
  constructor
  · intro h op fits
    rw [decode_of_fits fits] at h
    cases h
  · intro h
    cases decodes : decode w with
    | none => rfl
    | some i =>
      obtain ⟨op, fits⟩ := exists_fits_of_decode decodes
      exact absurd fits (h op)

end Chip8
