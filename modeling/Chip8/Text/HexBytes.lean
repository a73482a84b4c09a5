import Chip8.Text.DecimalDigit
import Chip8.Text.Digits
import Chip8.Word

/-!
# Bytes in hexadecimal

Program images and stretches of memory as text: two hexadecimal digits for each byte. Blanks may
stand before, between and after the bytes, but not inside one (`bytes?`). What is written has lower
case digits and no blanks (`hexBytes`), and it reads back (`bytes?_hexBytes`).
-/

namespace Chip8.Text

/-- The value of a hexadecimal digit in either case. -/
def hexValue? (c : Char) : Option Nat := (digitValue? c).filter (· < 16)

/-- The bytes of a text. -/
def bytes? : List Char → Option (List Byte)
  | [] => some []
  | [c] => if isBlank c then some [] else none
  | c :: d :: rest =>
    if isBlank c then bytes? (d :: rest)
    else do
      let high ← hexValue? c
      let low ← hexValue? d
      let bytes ← bytes? rest
      return BitVec.ofNat 8 (16 * high + low) :: bytes

/-- The two digits of a byte. -/
def byteDigits (b : Byte) : List Char :=
  [Nat.digitChar (b.toNat / 16), Nat.digitChar (b.toNat % 16)]

/-- The digits of some bytes. -/
def hexBytes (bytes : List Byte) : List Char := bytes.flatMap byteDigits

/-- The character of a digit below sixteen is no blank and has the value of the digit. -/
theorem hexValue?_digitChar {d : Nat} (h : d < 16) :
    isBlank (Nat.digitChar d) = false ∧ hexValue? (Nat.digitChar d) = some d := by
  have key : ∀ d : Fin 16,
      isBlank (Nat.digitChar d) = false ∧ hexValue? (Nat.digitChar d) = some d.val := by decide
  exact key ⟨d, h⟩

/-- Bytes read back from their digits. -/
@[simp] theorem bytes?_hexBytes (bytes : List Byte) : bytes? (hexBytes bytes) = some bytes := by
  induction bytes with
  | nil => rfl
  | cons b bytes ih =>
    obtain ⟨blank, high⟩ := hexValue?_digitChar (show b.toNat / 16 < 16 by omega)
    have low := (hexValue?_digitChar (show b.toNat % 16 < 16 by omega)).2
    have value : BitVec.ofNat 8 (16 * (b.toNat / 16) + b.toNat % 16) = b := by
      rw [Nat.div_add_mod]
      exact BitVec.ofNat_toNat ..
    rw [hexBytes, List.flatMap_cons, ← hexBytes]
    simp [byteDigits, bytes?, blank, high, low, ih, value]

end Chip8.Text
