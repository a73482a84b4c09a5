/-!
# Limits of reading

A reader may be told to take only so much: `Limits.digits` bounds the decimal digits of one whole
number, `Limits.depth` the arrays and objects that lie inside each other. The limits bound the cost
of a hostile text; what is within them means the same under any limits.
-/

namespace Chip8

/-- How much a reader takes; where there is no number there is no limit. -/
structure Limits where
  /-- The most decimal digits of a whole number, leading zeros included. -/
  digits : Option Nat
  /-- The most arrays and objects that may lie inside each other. -/
  depth : Option Nat
  deriving DecidableEq, Repr

namespace Limits

/-- No limit at all. -/
def unlimited : Limits := ⟨none, none⟩

/-- The limits on what comes from outside. -/
def standard : Limits := ⟨some 4300, some 990⟩

/-- Whether an amount is within a limit. -/
def allows (limit : Option Nat) (n : Nat) : Bool := limit.all (n ≤ ·)

@[simp] theorem allows_none (n : Nat) : allows none n = true := rfl

@[simp] theorem allows_some (limit n : Nat) : allows (some limit) n = decide (n ≤ limit) := rfl

end Limits

end Chip8
