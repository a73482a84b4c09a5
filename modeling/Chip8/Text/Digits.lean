/-!
# Positional notation

Natural numbers as digits in a base, most significant digit first. `digitValues` writes a number as
the values of its digits and `valueOf` reads them back (`valueOf_digitValues`); every value is below
the base (`lt_of_mem_digitValues`). On paper a digit is a character: `0` to `9` and then the letters
from `A`, which are read in either case (`digitValue?_digitChar`).

Padding to a width is separate (`padLeft`), since a sign counts toward the width of a padded number.
-/

namespace Chip8.Text

/-- The values of the digits of `n` in `base`, without leading zeros; zero has the one digit zero.
In a base below two there is no positional notation, and the number itself is its only digit. -/
def digitValues (base n : Nat) : List Nat :=
  if base < 2 ∨ n < base then [n] else digitValues base (n / base) ++ [n % base]
termination_by n
decreasing_by
  exact Nat.div_lt_self (by omega) (by omega)

/-- The number that a list of digit values denotes in `base`. -/
def valueOf (base : Nat) (ds : List Nat) : Nat := ds.foldl (fun acc d ↦ acc * base + d) 0

/-- The character of a digit: a decimal digit below ten, then the upper-case letters. -/
def digitChar (d : Nat) : Char :=
  if d < 10 then Char.ofNat (48 + d) else Char.ofNat (55 + d)

/-- The value of an ASCII digit or letter; either case of a letter counts from ten on. -/
def digitValue? (c : Char) : Option Nat :=
  if '0' ≤ c ∧ c ≤ '9' then some (c.toNat - 48)
  else if 'A' ≤ c ∧ c ≤ 'Z' then some (c.toNat - 55)
  else if 'a' ≤ c ∧ c ≤ 'z' then some (c.toNat - 87)
  else none

/-- The digits of `n` in `base`. -/
def digits (base n : Nat) : List Char := (digitValues base n).map digitChar

/-- `cs` with copies of `fill` in front, up to `width` characters in all. -/
def padLeft (width : Nat) (fill : Char) (cs : List Char) : List Char :=
  List.replicate (width - cs.length) fill ++ cs

/-! ### Values of digits -/

@[simp] theorem valueOf_nil (base : Nat) : valueOf base [] = 0 := rfl

@[simp] theorem valueOf_singleton (base d : Nat) : valueOf base [d] = d := by
  simp [valueOf]

/-- One more digit shifts the value by one place. -/
@[simp] theorem valueOf_append_singleton (base : Nat) (ds : List Nat) (d : Nat) :
    valueOf base (ds ++ [d]) = valueOf base ds * base + d := by
  simp [valueOf]

theorem digitValues_of_lt {base n : Nat} (h : n < base) : digitValues base n = [n] := by
  rw [digitValues, if_pos (Or.inr h)]

theorem digitValues_of_le {base n : Nat} (hb : 2 ≤ base) (h : base ≤ n) :
    digitValues base n = digitValues base (n / base) ++ [n % base] := by
  rw [digitValues, if_neg (by omega)]

/-- The digits of a number denote it. -/
@[simp] theorem valueOf_digitValues (base n : Nat) : valueOf base (digitValues base n) = n := by
  fun_induction digitValues base n with
  | case1 n h => simp
  | case2 n h ih =>
    rw [valueOf_append_singleton, ih]
    exact Nat.div_add_mod' n base

/-- Every digit is below the base. -/
theorem lt_of_mem_digitValues {base : Nat} (hb : 2 ≤ base) {n d : Nat}
    (hd : d ∈ digitValues base n) : d < base := by
  fun_induction digitValues base n with
  | case1 n h =>
    obtain rfl := List.mem_singleton.1 hd
    omega
  | case2 n h ih =>
    rcases List.mem_append.1 hd with hd | hd
    · exact ih hd
    · obtain rfl := List.mem_singleton.1 hd
      exact Nat.mod_lt n (by omega)

theorem digitValues_ne_nil (base n : Nat) : digitValues base n ≠ [] := by
  rw [digitValues]
  split <;> simp

/-! ### Characters of digits -/

/-- The character of a digit in a base up to thirty-six reads as that digit. -/
theorem digitValue?_digitChar {d : Nat} (h : d < 36) : digitValue? (digitChar d) = some d := by
  have key : ∀ d : Fin 36, digitValue? (digitChar d) = some d.val := by decide
  exact key ⟨d, h⟩

theorem digits_ne_nil (base n : Nat) : digits base n ≠ [] := by
  simp [digits, digitValues_ne_nil]

@[simp] theorem length_padLeft (width : Nat) (fill : Char) (cs : List Char) :
    (padLeft width fill cs).length = max width cs.length := by
  simp only [padLeft, List.length_append, List.length_replicate]
  omega

end Chip8.Text
