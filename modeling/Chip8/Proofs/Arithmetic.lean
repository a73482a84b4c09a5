import Chip8.Instr.Encoding
import Chip8.Machine.Command
import Chip8.Proofs.Step

/-!
# Arithmetic and its flag

What the instructions that compute leave in the registers, as numbers. `State.arithmetic?` is the
table of them: the result for each opcode, and the flag for those that have one. The flag register
is a register like the others, so it may be an operand, or be where the result goes. Operands are
read before anything is written, and the result is written after the flag: with the flag register as
the destination it is the result that stays (`State.Computed`).

The sum with the index register has a law of its own (`State.IndexAdded`): the flag is the only
register that it writes, and it may be the one that is added. The main result is
`Machine.arithmetic_of_execute`.
-/

namespace Chip8

/-! ### The operations as numbers -/

theorem Byte.toNat_sub_eq (a b : Byte) :
    (a - b).toNat = (((a.toNat : Int) - b.toNat) % 256).toNat := by
  have ha := a.isLt
  have hb := b.isLt
  rw [BitVec.toNat_sub]
  omega

theorem Byte.toNat_shiftRight_one (a : Byte) : (a >>> 1).toNat = a.toNat / 2 :=
  BitVec.toNat_ushiftRight a 1

theorem Byte.toNat_shiftLeft_one (a : Byte) : (a <<< 1).toNat = 2 * a.toNat % 256 := by
  rw [BitVec.toNat_shiftLeft, Nat.shiftLeft_eq]
  omega

theorem Byte.getMsbD_zero (a : Byte) : a.getMsbD 0 = decide (128 ≤ a.toNat) :=
  BitVec.msb_eq_decide a

theorem Byte.getLsbD_zero (a : Byte) : a.getLsbD 0 = decide (a.toNat % 2 = 1) :=
  Nat.testBit_zero a.toNat

namespace State

variable {s : State} {w : Word} {op : Opcode} {result : Nat} {flag : Option Bool}

/-- The result that a word of some opcode has for the first register that it names, and its flag if
it has one. -/
def arithmetic? (s : State) (w : Word) (op : Opcode) : Option (Nat × Option Bool) :=
  let a := (s.v (Word.x w)).toNat
  let b := (s.v (Word.y w)).toNat
  match op with
  | .ldReg => some (b, none)
  | .or => some (a ||| b, none)
  | .and => some (a &&& b, none)
  | .xor => some (a ^^^ b, none)
  | .addReg => some ((a + b) % 256, some (256 ≤ a + b))
  | .sub => some ((((a : Int) - b) % 256).toNat, some (b < a))
  | .shr => some (a / 2, some (a % 2 = 1))
  | .subn => some ((((b : Int) - a) % 256).toNat, some (a < b))
  | .shl => some (2 * a % 256, some (128 ≤ a))
  | .addImm => some ((a + w.toNat % 0x100) % 256, none)
  | _ => none

/-- The registers of a state `t` are those of a state `s` with a result in `Vx` and a flag, if there
is one, in the flag register, unless that is `Vx`. -/
structure Computed (x : RegIndex) (result : Nat) (flag : Option Bool) (s t : State) : Prop where
  result : (t.v x).toNat = result
  flag : x ≠ .flag → t.v .flag = flag.elim (s.v .flag) fun raised ↦ if raised then 1 else 0
  others : ∀ r, r ≠ x → r ≠ .flag → t.v r = s.v r
  index : t.index = s.index

/-- The registers of a state `t` are those of a state `s` with `Vx` added to the index register. -/
structure IndexAdded (x : RegIndex) (s t : State) : Prop where
  index : t.index.toNat = (s.index.toNat + (s.v x).toNat) % 0x10000
  flag : t.v .flag = if 0xFFF < s.index.toNat + (s.v x).toNat then 1 else 0
  others : ∀ r, r ≠ .flag → t.v r = s.v r

/-- **The result is written after the flag.** -/
theorem computed_finish (s : State) (x : RegIndex) (b : Byte) (flag : Option Bool) :
    Computed x b.toNat flag s (s.finish x b flag) := by
  refine ⟨congrArg BitVec.toNat (v_setV_self ..), ?flag, ?others, ?index⟩
  case flag =>
    intro other
    refine (v_setV_of_ne _ (Ne.symm other) b).trans ?_
    rcases flag with - | raised
    · rfl
    · exact v_setV_self ..
  case others =>
    intro r result flagless
    refine (v_setV_of_ne _ result b).trans ?_
    rcases flag with - | raised
    · rfl
    · exact v_setV_of_ne _ flagless _
  case index =>
    rcases flag with - | raised
    · rfl
    · rfl

/-- **The table is what the instructions compute.** -/
theorem exec_of_arithmetic (h : s.arithmetic? w op = some (result, flag)) :
    ∃ b : Byte, b.toNat = result ∧
      s.exec (op.instr w) = .ok (.silent (s.finish (Word.x w) b flag)) := by
  -- Most flags compare the numbers already; those of the shifts are bits of the operand.
  cases op with
  | ldReg =>
    cases h
    exact ⟨s.v (Word.y w), rfl, rfl⟩
  | or =>
    cases h
    exact ⟨_, BitVec.toNat_or .., rfl⟩
  | and =>
    cases h
    exact ⟨_, BitVec.toNat_and .., rfl⟩
  | xor =>
    cases h
    exact ⟨_, BitVec.toNat_xor .., rfl⟩
  | addReg =>
    cases h
    exact ⟨_, BitVec.toNat_add .., rfl⟩
  | sub =>
    cases h
    exact ⟨_, Byte.toNat_sub_eq .., rfl⟩
  | subn =>
    cases h
    exact ⟨_, Byte.toNat_sub_eq .., rfl⟩
  | shr =>
    cases h
    rw [← Byte.getLsbD_zero]
    exact ⟨_, Byte.toNat_shiftRight_one _, rfl⟩
  | shl =>
    cases h
    rw [← Byte.getMsbD_zero]
    exact ⟨_, Byte.toNat_shiftLeft_one _, rfl⟩
  | addImm =>
    cases h
    rw [← Word.toNat_nn, ← BitVec.toNat_add]
    exact ⟨_, rfl, rfl⟩
  | _ => cases h

/-- **The sum with the index register.** -/
theorem exec_addIndex (s : State) (x : RegIndex) :
    ∃ e, s.exec (.addIndex x) = .ok e ∧ IndexAdded x s e.state := by
  refine ⟨_, rfl, BitVec.toNat_ofNat .., ?flag, ?others⟩
  case flag =>
    refine (v_setV_self ..).trans ?_
    show (if decide (0xFFF < s.index.toNat + (s.v x).toNat) then 1 else 0) = _
    simp only [decide_eq_true_eq]
  case others =>
    intro r other
    exact v_setV_of_ne _ other _

end State

namespace Machine

/-- **Arithmetic.** A word of the table is completed, with the result and the flag that the
registers had for it before; so is the sum with the index register. -/
theorem arithmetic_of_execute (m : Machine) (w : Word) :
    (∀ op result flag, op.Fits w → m.state.arithmetic? w op = some (result, flag) →
      (m.execute w).answer = .ok w ∧
        m.state.Computed (Word.x w) result flag (m.execute w).machine.state) ∧
    (Opcode.addI.Fits w →
      (m.execute w).answer = .ok w ∧ m.state.IndexAdded (Word.x w) (m.execute w).machine.state) := by
  constructor
  · intro op result flag fits h
    obtain ⟨b, rfl, exec⟩ := State.exec_of_arithmetic h
    obtain ⟨answer, executed, state⟩ := completed_of_exec (decode_of_fits fits) exec
    rw [state]
    exact ⟨answer, { m.state.computed_finish (Word.x w) b flag with }⟩
  · intro fits
    obtain ⟨e, exec, added⟩ := m.state.exec_addIndex (Word.x w)
    obtain ⟨answer, executed, state⟩ := completed_of_exec (decode_of_fits fits) exec
    rw [state]
    exact ⟨answer, { added with }⟩

/-- A machine with the same number in `V1` and in the flag register. -/
def evenHanded : Machine :=
  (standard 0x200).after [.setRegister 1 0x90, .setRegister 0xF 0x90, .setIndex 0xFF0]

/-- The sum of the flag register with itself stays there, and its carry is lost; a difference of
zero lowers the flag that it was taken from; and the index register is added the flag as it was. -/
theorem arithmetic_of_evenHanded :
    evenHanded.state.Computed .flag 0x20 (some true) (evenHanded.execute 0x8FF4).machine.state ∧
    ((evenHanded.execute 0x8FF4).machine.state.v .flag).toNat = 0x20 ∧
    evenHanded.state.Computed 1 0 (some false) (evenHanded.execute 0x81F5).machine.state ∧
    (evenHanded.execute 0x81F5).machine.state.v .flag = 0 ∧
    evenHanded.state.IndexAdded .flag (evenHanded.execute 0xFF1E).machine.state ∧
    (evenHanded.execute 0xFF1E).machine.state.v .flag = 1 := by
  have sum := (arithmetic_of_execute evenHanded 0x8FF4).1 .addReg 0x20 (some true) (by decide)
    (by decide +kernel)
  have difference := (arithmetic_of_execute evenHanded 0x81F5).1 .sub 0 (some false) (by decide)
    (by decide +kernel)
  have added := (arithmetic_of_execute evenHanded 0xFF1E).2 (by decide)
  exact ⟨sum.2, sum.2.result, difference.2, difference.2.flag (by decide), added.2,
    by decide +kernel⟩

end Machine

end Chip8
