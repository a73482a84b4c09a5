import Chip8.Machine.Access
import Chip8.Word

/-!
# Registers

The sixteen registers `V0` to `VF`, the index register and the program counter. Instructions name a
register by its number, which is in range by its type; hosts may ask for any integer and are checked
(`RegIndex.ofInt`). Every value is reduced to the width of where it goes.
-/

namespace Chip8

/-- The number of registers `V0` to `VF`. -/
def RegIndex.count : Nat := 16

/-- The register that a jump with an offset adds: `V0`. -/
def RegIndex.first : RegIndex := 0

/-- The register that instructions use as their flag: `VF`. -/
def RegIndex.flag : RegIndex := 15

/-- The register of a number that a host gives. -/
def RegIndex.ofInt (i : Int) : Except Fault RegIndex :=
  if h : 0 ≤ i ∧ i < 16 then .ok ⟨i.toNat, toNat_lt_sixteen h⟩
  else .error (.outOfRange .register i 15)

@[simp] theorem RegIndex.ofInt_val (x : RegIndex) : RegIndex.ofInt x.val = .ok x := by
  have inside : 0 ≤ (x.val : Int) ∧ (x.val : Int) < 16 := by omega
  rw [RegIndex.ofInt, dif_pos inside]
  rfl

/-- The registers of the machine. -/
structure Registers where
  /-- `V0` to `VF`. -/
  v : Vector Byte 16
  /-- The index register `I`. -/
  index : Word
  /-- The program counter. -/
  pc : Word
  deriving DecidableEq

namespace Registers

/-- All registers zero, and the program counter at the word congruent to `pc`. -/
def blank (pc : Int) : Registers := ⟨Vector.replicate 16 0, 0, Word.ofInt pc⟩

/-- All registers but the program counter zero. -/
def clear (r : Registers) : Registers := { blank 0 with pc := r.pc }

/-- The contents of `Vx`. -/
def get (r : Registers) (x : RegIndex) : Byte := r.v[x]

/-- `Vx` set to a byte. -/
def set (r : Registers) (x : RegIndex) (b : Byte) : Registers := { r with v := r.v.set x b }

/-- The contents of the register that a host names. -/
def read (r : Registers) (i : Int) : Except Fault Byte := (RegIndex.ofInt i).map r.get

/-- The register that a host names set to the byte congruent to `value`. -/
def write (r : Registers) (i value : Int) : Except Fault Registers :=
  (RegIndex.ofInt i).map (r.set · (Byte.ofInt value))

/-- Sets the register that a host names, after its number is checked. -/
def writing (i value : Int) : Access Fault Registers Unit := do
  let x ← Access.check (RegIndex.ofInt i)
  Access.change (·.set x (Byte.ofInt value))

/-- **A refused register has changed nothing.** -/
theorem run_writing (r : Registers) (i value : Int) :
    (writing i value).run r = Access.ending r ((r.write i value).map ((), ·)) := by
  simp only [writing, write, EStateM.run_bind]
  cases RegIndex.ofInt i with
  | ok x => rfl
  | error f => rfl

@[simp] theorem write_val (r : Registers) (x : RegIndex) (b : Byte) :
    r.write x.val b.toNat = .ok (r.set x b) := by
  rw [write, RegIndex.ofInt_val, Byte.ofInt_toNat]
  rfl

@[simp] theorem get_set_self (r : Registers) (x : RegIndex) (b : Byte) : (r.set x b).get x = b := by
  simp [get, set]

theorem get_set_of_ne (r : Registers) {x y : RegIndex} (h : y ≠ x) (b : Byte) :
    (r.set x b).get y = r.get y := by
  have hv : x.val ≠ y.val := fun e ↦ h (Fin.ext e.symm)
  simp [get, set, Vector.getElem_set_ne, hv]

@[simp] theorem index_set (r : Registers) (x : RegIndex) (b : Byte) : (r.set x b).index = r.index :=
  rfl

@[simp] theorem pc_set (r : Registers) (x : RegIndex) (b : Byte) : (r.set x b).pc = r.pc := rfl

end Registers

end Chip8
