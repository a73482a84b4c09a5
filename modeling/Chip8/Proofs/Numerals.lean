import Chip8.Text.Hex

/-!
# Reading numerals back

What messages, names and disassembly write of a natural number, be it padded with zeros or not, has
one meaning: the number can be read off its digits again (`Text.number_padLeft`). A hexadecimal
numeral has exactly the width that was asked for as long as the number fits (`Text.length_hex`), so
numerals of different kinds can be told apart by their length.
-/

namespace Chip8.Text

/-- The number that the digits of a text denote. -/
def number (base : Nat) (cs : List Char) : Nat := valueOf base (cs.filterMap digitValue?)

variable {base n k width : Nat}

/-! ### Digits -/

/-- Leading zeros do not count. -/
theorem valueOf_zeros_append (base k : Nat) (ds : List Nat) :
    valueOf base (List.replicate k 0 ++ ds) = valueOf base ds := by
  induction k with
  | zero => rfl
  | succ k ih =>
    rw [List.replicate_succ, List.cons_append, ← ih, valueOf, List.foldl_cons, Nat.zero_mul]
    rfl

/-- A padded numeral is made of the characters of digits. -/
theorem padLeft_digits (width base n : Nat) :
    padLeft width '0' (digits base n) =
      (List.replicate (width - (digits base n).length) 0 ++ digitValues base n).map digitChar := by
  rw [List.map_append, List.map_replicate]
  rfl

/-- Every digit of a padded numeral is below the base. -/
theorem lt_of_mem_padded (hb : 2 ≤ base) {d : Nat}
    (hd : d ∈ List.replicate k 0 ++ digitValues base n) : d < base := by
  rcases List.mem_append.1 hd with hd | hd
  · rw [List.eq_of_mem_replicate hd]
    omega
  · exact lt_of_mem_digitValues hb hd

/-- Digits are read back from their characters. -/
theorem filterMap_digitValue? {ds : List Nat} (h : ∀ d ∈ ds, d < 36) :
    (ds.map digitChar).filterMap digitValue? = ds := by
  induction ds with
  | nil => rfl
  | cons d ds ih =>
    have first := digitValue?_digitChar (h d List.mem_cons_self)
    have rest := ih fun e he ↦ h e (List.mem_cons_of_mem d he)
    rw [List.map_cons, List.filterMap_cons_some first, rest]

/-- **A numeral denotes the number that it was made of.** -/
theorem number_padLeft (hb : 2 ≤ base) (hb' : base ≤ 36) (width n : Nat) :
    number base (padLeft width '0' (digits base n)) = n := by
  rw [number, padLeft_digits, filterMap_digitValue?, valueOf_zeros_append, valueOf_digitValues]
  intro d hd
  exact Nat.lt_of_lt_of_le (lt_of_mem_padded hb hd) hb'

/-- A padded numeral consists of digits. -/
theorem isSome_digitValue?_of_mem (hb : 2 ≤ base) (hb' : base ≤ 36) {c : Char}
    (h : c ∈ padLeft width '0' (digits base n)) : (digitValue? c).isSome = true := by
  rw [padLeft_digits] at h
  obtain ⟨d, hd, rfl⟩ := List.mem_map.1 h
  have small : d < 36 := Nat.lt_of_lt_of_le (lt_of_mem_padded hb hd) hb'
  rw [digitValue?_digitChar small]
  rfl

/-! ### Numerals as they are written -/

theorem toList_hex (width n : Nat) : (hex width n).toList = padLeft width '0' (digits 16 n) := by
  have nonneg : ¬(n : Int) < 0 := by omega
  rw [hex, String.toList_ofList, signed, if_neg nonneg, Int.natAbs_natCast]

theorem number_hex (width n : Nat) : number 16 (hex width n).toList = n := by
  rw [toList_hex]
  exact number_padLeft (by decide) (by decide) width n

/-- Numbers that are written alike are the same. -/
theorem eq_of_hex_eq {m : Nat} (h : hex width m = hex width n) : m = n := by
  rw [← number_hex width m, h, number_hex]

/-- A number that is small enough has no more digits than some width. -/
theorem length_digits_le (hb : 2 ≤ base) (h : n < Nat.pow base (k + 1)) :
    (digits base n).length ≤ k + 1 := by
  induction k generalizing n with
  | zero =>
    have small : n < base := by simpa using h
    rw [digits, digitValues_of_lt small]
    exact Nat.le_refl 1
  | succ k ih =>
    rcases Nat.lt_or_ge n base with small | large
    · rw [digits, digitValues_of_lt small]
      exact Nat.le_add_left 1 (k + 1)
    · -- One digit is the last one, and the others are those of the quotient.
      have quotient : n / base < Nat.pow base (k + 1) :=
        Nat.div_lt_of_lt_mul (by rw [Nat.mul_comm]; exact h)
      rw [digits, digitValues_of_le hb large, List.map_append, List.length_append]
      exact Nat.add_le_add_right (ih quotient) 1

/-- A number that fits is written with the digits of its width. -/
theorem length_hex (h : n < Nat.pow 16 (k + 1)) : (hex (k + 1) n).toList.length = k + 1 := by
  rw [toList_hex, length_padLeft, Nat.max_eq_left (length_digits_le (by decide) h)]

end Chip8.Text
