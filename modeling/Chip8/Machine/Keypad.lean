import Chip8.Machine.Access

/-!
# The keypad

Sixteen keys that a host holds down and lets go. Instructions only look. With several keys down, the
one that counts is the highest, whichever went down last (`Keypad.highest?`).
-/

namespace Chip8

/-- Which keys are down. -/
structure Keypad where
  down : Vector Bool 16
  deriving DecidableEq

namespace Keypad

/-- The number of keys. -/
def count : Nat := 16

/-- The keys as they stand on the pad, row by row. -/
def layout : List (List Nat) :=
  [[0x1, 0x2, 0x3, 0xC], [0x4, 0x5, 0x6, 0xD], [0x7, 0x8, 0x9, 0xE], [0xA, 0x0, 0xB, 0xF]]

/-- No key down. -/
def blank : Keypad := ⟨Vector.replicate 16 false⟩

/-- The key of a number that a host or a program gives. -/
def key (i : Int) : Except Fault (Fin 16) :=
  if h : 0 ≤ i ∧ i < 16 then .ok ⟨i.toNat, toNat_lt_sixteen h⟩
  else .error (.outOfRange .key i 15)

/-- The keypad with a key down. -/
def press (k : Keypad) (i : Int) : Except Fault Keypad :=
  (key i).map fun x ↦ ⟨k.down.set x.val true x.isLt⟩

/-- The keypad with a key up. -/
def release (k : Keypad) (i : Int) : Except Fault Keypad :=
  (key i).map fun x ↦ ⟨k.down.set x.val false x.isLt⟩

/-- Whether a key is down. -/
def isDown (k : Keypad) (i : Int) : Except Fault Bool := (key i).map fun x ↦ k.down[x]

/-- The keys that are down, ascending. -/
def pressed (k : Keypad) : List (Fin 16) := (List.finRange 16).filter fun i ↦ k.down[i]

/-- The highest key that is down. -/
def highest? (k : Keypad) : Option (Fin 16) := k.pressed.getLast?

/-- Whether some key is down. -/
def anyDown (k : Keypad) : Bool := k.down.any id

/-! ### Pressing and letting go step by step -/

/-- Holds a key down, or lets it go, after its number is checked. -/
def turning (down : Bool) (i : Int) : Access Fault Keypad Unit := do
  let x ← Access.check (key i)
  Access.change fun k ↦ ⟨k.down.set x.val down x.isLt⟩

/-- Holds a key down. -/
def pressing : Int → Access Fault Keypad Unit := turning true

/-- Lets a key go. -/
def releasing : Int → Access Fault Keypad Unit := turning false

theorem run_turning (k : Keypad) (down : Bool) (i : Int) :
    (turning down i).run k =
      Access.ending k ((key i).map fun x ↦ ((), ⟨k.down.set x.val down x.isLt⟩)) := by
  simp only [turning, EStateM.run_bind]
  cases key i with
  | ok x => rfl
  | error f => rfl

/-- **A refused key has changed nothing.** -/
theorem run_pressing (k : Keypad) (i : Int) :
    (pressing i).run k = Access.ending k ((k.press i).map ((), ·)) := by
  rw [press, Fault.map_map]
  exact k.run_turning true i

theorem run_releasing (k : Keypad) (i : Int) :
    (releasing i).run k = Access.ending k ((k.release i).map ((), ·)) := by
  rw [release, Fault.map_map]
  exact k.run_turning false i

theorem clean_pressing (i : Int) : (pressing i).Clean := .of_ending fun k ↦ k.run_pressing i

theorem clean_releasing (i : Int) : (releasing i).Clean := .of_ending fun k ↦ k.run_releasing i

/-! ### Keys and their numbers -/

/-- A number names the key that has it. -/
theorem key_eq_ok_iff {i : Int} {x : Fin 16} : key i = .ok x ↔ i = x.val := by
  by_cases h : 0 ≤ i ∧ i < 16
  · rw [key, dif_pos h, Except.ok.injEq, Fin.ext_iff]
    show i.toNat = x.val ↔ _
    omega
  · rw [key, dif_neg h]
    simp only [reduceCtorEq, false_iff]
    omega

/-- Other numbers name none. -/
theorem key_eq_error_iff {i : Int} {f : Fault} :
    key i = .error f ↔ ¬(0 ≤ i ∧ i < 16) ∧ .outOfRange .key i 15 = f :=
  Fault.dite_eq_error_iff

/-! ### The keys that are down -/

/-- The keys that are down are those whose state says so. -/
theorem mem_pressed (k : Keypad) (i : Fin 16) : i ∈ k.pressed ↔ k.down[i] = true := by
  simp [pressed]

/-- There is a highest key as long as any is down. -/
theorem highest?_eq_none_iff {k : Keypad} : k.highest? = none ↔ k.pressed = [] :=
  List.getLast?_eq_none_iff

theorem pressed_ne_nil {k : Keypad} {key : Fin 16} (h : k.highest? = some key) :
    k.pressed ≠ [] := by
  intro up
  rw [highest?_eq_none_iff.2 up] at h
  cases h

end Keypad

end Chip8
