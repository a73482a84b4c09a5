/-!
# Bytes, words and their fields

Memory cells and the sixteen registers hold eight bits; instructions, the index register and the
program counter hold sixteen. A host may hand in any integer for either: it is reduced modulo the
width, which for a negative integer is its two's complement. Fixed-width types carry the ranges, so
no operation of the machine has to restore them. What restores them where numbers are plain integers
is said of a machine of its own (`Bare.State`).

An instruction word is read as four nibbles. `Word.family` is the leading one, `Word.x` and `Word.y`
name registers, and `Word.nnn`, `Word.nn`, `Word.n` are the last three, two and one nibbles as one
number.
-/

namespace Chip8

/-- The contents of a memory cell or of one of the registers `V0` to `VF`. -/
abbrev Byte := BitVec 8

/-- An instruction word, the index register or the program counter. -/
abbrev Word := BitVec 16

/-- The twelve-bit operand of jumps, calls and loads of the index register. -/
abbrev Target := BitVec 12

/-- The number of a register: `V0` to `VF`. -/
abbrev RegIndex := Fin 16

/-- The byte congruent to `v` modulo 256. -/
def Byte.ofInt (v : Int) : Byte := BitVec.ofInt 8 v

/-- The word congruent to `v` modulo 65536. -/
def Word.ofInt (v : Int) : Word := BitVec.ofInt 16 v

/-- The byte congruent to the number that a byte is. -/
@[simp] theorem Byte.ofInt_toNat (b : Byte) : Byte.ofInt b.toNat = b := by
  rw [ofInt, BitVec.ofInt_natCast, BitVec.ofNat_toNat, BitVec.setWidth_eq]

/-- The word congruent to the number that a word is. -/
@[simp] theorem Word.ofInt_toNat (w : Word) : Word.ofInt w.toNat = w := by
  rw [ofInt, BitVec.ofInt_natCast, BitVec.ofNat_toNat, BitVec.setWidth_eq]

/-- A number modulo 256 is the number of its byte. -/
theorem Byte.toNat_ofInt (v : Int) : ((Byte.ofInt v).toNat : Int) = v % 256 := by
  rw [Byte.ofInt, BitVec.toNat_ofInt]
  exact Int.toNat_of_nonneg (Int.emod_nonneg v (by decide))

/-- A number modulo 65536 is the number of its word. -/
theorem Word.toNat_ofInt (v : Int) : ((Word.ofInt v).toNat : Int) = v % 65536 := by
  rw [Word.ofInt, BitVec.toNat_ofInt]
  exact Int.toNat_of_nonneg (Int.emod_nonneg v (by decide))

namespace Word

/-- The word whose high byte is `high` and whose low byte is `low`. -/
def ofBytes (high low : Byte) : Word := high ++ low

/-- The number of a word that is given by its bytes. -/
theorem toNat_ofBytes (high low : Byte) :
    (ofBytes high low).toNat = 256 * high.toNat + low.toNat := by
  rw [ofBytes, BitVec.toNat_append, ← Nat.shiftLeft_add_eq_or_of_lt low.isLt, Nat.shiftLeft_eq,
    Nat.mul_comm]

/-- The leading nibble, which selects the family of instructions. -/
def family (w : Word) : Nat := (w >>> 12).toNat

/-- The second nibble, as a register. -/
def x (w : Word) : RegIndex := (w.extractLsb' 8 4).toFin

/-- The third nibble, as a register. -/
def y (w : Word) : RegIndex := (w.extractLsb' 4 4).toFin

/-- The last three nibbles. -/
def nnn (w : Word) : Target := w.setWidth 12

/-- The last two nibbles. -/
def nn (w : Word) : Byte := w.setWidth 8

/-- The last nibble. -/
def n (w : Word) : Fin 16 := (w.extractLsb' 0 4).toFin

end Word

end Chip8
