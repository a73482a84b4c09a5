import Chip8.Instr.Encoding
import Chip8.Proofs.CallReturn
import Chip8.Proofs.KeyWait

/-!
# Where a machine goes on

A word that is completed takes the program counter to one address, and which one depends on the word
and on the state before it. `State.following` is that address, opcode by opcode: the target of a
jump or a call, the latest return address, the word itself while it waits for a key, and in all
other cases the next word or, if the word skips (`State.skips`), the one after that. Only the last
two wrap round: a jump with an offset ends below `0x1100`, so its sum is the address.

The instructions advance the program counter by themselves, each in its own place. That all of them
agree with the table is one case analysis (`State.following_of_exec`). A wait that is over goes on
like the word that began it, which a machine no longer fetches at that point, so it is said apart in
`Machine.pc_eq_following`.
-/

namespace Chip8

/-! ### Keys -/

namespace Keypad

variable {k : Keypad}

/-- Whether the key of a number is down, if there is a key of that number. -/
theorem exists_mem_pressed_iff {n : Nat} {down : Bool} (h : k.isDown n = .ok down) :
    (∃ key ∈ k.pressed, key.val = n) ↔ down = true := by
  obtain ⟨key, found, rfl⟩ := Fault.exists_of_map_eq_ok h
  have number : key.val = n := Int.ofNat.inj (key_eq_ok_iff.1 found).symm
  rw [← mem_pressed]
  constructor
  · rintro ⟨other, held, same⟩
    have eq : other = key := Fin.ext (same.trans number.symm)
    rwa [eq] at held
  · intro held
    exact ⟨key, held, number⟩

end Keypad

namespace State

variable {s : State} {w : Word} {op : Opcode} {e : Effect}

/-! ### Addresses -/

/-- Whether a word of an opcode skips the word after it: two opcodes compare a register with a
number, two compare registers, and two look at the key that a register names. -/
def skips (s : State) (w : Word) : Opcode → Bool
  | .seImm => (s.v (Word.x w)).toNat = w.toNat % 0x100
  | .sneImm => (s.v (Word.x w)).toNat ≠ w.toNat % 0x100
  | .seReg => s.v (Word.x w) = s.v (Word.y w)
  | .sneReg => s.v (Word.x w) ≠ s.v (Word.y w)
  | .skp => ∃ key ∈ s.keypad.pressed, key.val = (s.v (Word.x w)).toNat
  | .sknp => ¬∃ key ∈ s.keypad.pressed, key.val = (s.v (Word.x w)).toNat
  | _ => false

/-- The address at which a word of an opcode goes on. There is none for a return without a call. -/
def following (s : State) (w : Word) : Opcode → Option Nat
  | .jp => some (w.toNat % 0x1000)
  | .call => some (w.toNat % 0x1000)
  | .jpV0 => some (w.toNat % 0x1000 + (s.v .first).toNat)
  | .ret => s.stack.entries.getLast?.map BitVec.toNat
  | .ldVxK => some (if s.keypad.pressed = [] then s.pc.toNat else (s.pc.toNat + 2) % 0x10000)
  | op => some ((s.pc.toNat + if s.skips w op then 4 else 2) % 0x10000)

/-! ### What moves the program counter -/

theorem pc_putV (s : State) (i : Nat) (bytes : List Byte) : (s.putV i bytes).pc = s.pc := by
  induction bytes generalizing s i with
  | nil => rfl
  | cons b bs ih =>
    rw [putV]
    split
    · exact ih (s.setV _ b) (i + 1)
    · exact ih s (i + 1)

theorem pc_finish (s : State) (x : RegIndex) (result : Byte) (flag : Option Bool) :
    (s.finish x result flag).pc = s.pc + 2 := by
  rcases flag with - | flag
  · rfl
  · rfl

/-- A target is an address as it stands. -/
theorem toNat_target (target : Target) : (target.setWidth 16).toNat = target.toNat := by
  have small : target.toNat < 0x1000 := target.isLt
  rw [BitVec.toNat_setWidth]
  omega

theorem toNat_pc_add_two (s : State) : (s.pc + 2).toNat = (s.pc.toNat + 2) % 0x10000 :=
  BitVec.toNat_add s.pc 2

theorem toNat_pc_advanceSkipping (s : State) (skip : Bool) :
    (s.advanceSkipping skip).pc.toNat = (s.pc.toNat + if skip then 4 else 2) % 0x10000 := by
  rcases skip with - | -
  · exact BitVec.toNat_add s.pc 2
  · exact BitVec.toNat_add s.pc 4

/-- The address of an opcode that goes on to the next word. -/
theorem following_of_pc {t : State} (next : t.pc = s.pc + 2) :
    some ((s.pc.toNat + if false then 4 else 2) % 0x10000) = some t.pc.toNat := by
  rw [next, toNat_pc_add_two]
  rfl

/-- The address of an opcode that may skip a word. -/
theorem following_of_skips (skip : Bool) (same : s.skips w op = skip) :
    some ((s.pc.toNat + if s.skips w op then 4 else 2) % 0x10000) =
      some (s.advanceSkipping skip).pc.toNat := by
  rw [same, toNat_pc_advanceSkipping]

/-- A number that is written into a register equals the register where their bytes are equal. -/
theorem toNat_v_eq_iff (s : State) (w : Word) :
    (s.v (Word.x w)).toNat = w.toNat % 0x100 ↔ s.v (Word.x w) = Word.nn w := by
  rw [← Word.toNat_nn]
  exact BitVec.toNat_inj

/-- **Every instruction goes on at the address of its opcode.** -/
theorem following_of_exec (exec : s.exec (op.instr w) = .ok e) :
    s.following w op = some e.state.pc.toNat := by
  cases op with
  | jp =>
    cases exec
    show some (w.toNat % 0x1000) = some ((Word.nnn w).setWidth 16).toNat
    rw [toNat_target, Word.toNat_nnn]
  | call =>
    obtain ⟨stack, -, exec⟩ := Fault.exists_of_bind_eq_ok exec
    cases exec
    show some (w.toNat % 0x1000) = some ((Word.nnn w).setWidth 16).toNat
    rw [toNat_target, Word.toNat_nnn]
  | jpV0 =>
    cases exec
    have small : (s.v .first).toNat < 0x100 := (s.v .first).isLt
    show some _ = some ((Word.nnn w).setWidth 16 + (s.v .first).setWidth 16).toNat
    rw [BitVec.toNat_add, toNat_target, Word.toNat_nnn, BitVec.toNat_setWidth]
    congr 1
    omega
  | ret =>
    obtain ⟨⟨latest, stack⟩, popped, exec⟩ := Fault.exists_of_bind_eq_ok exec
    cases exec
    show s.stack.entries.getLast?.map BitVec.toNat = some latest.toNat
    rw [CallStack.entries_of_pop popped, List.getLast?_concat]
    rfl
  | seImm =>
    cases exec
    refine following_of_skips ((s.v (Word.x w) == Word.nn w) == true) ?_
    rw [Bool.eq_iff_iff]
    simp [skips, toNat_v_eq_iff]
  | sneImm =>
    cases exec
    refine following_of_skips ((s.v (Word.x w) == Word.nn w) == false) ?_
    rw [Bool.eq_iff_iff]
    simp [skips, toNat_v_eq_iff]
  | seReg =>
    cases exec
    refine following_of_skips ((s.v (Word.x w) == s.v (Word.y w)) == true) ?_
    rw [Bool.eq_iff_iff]
    simp [skips]
  | sneReg =>
    cases exec
    refine following_of_skips ((s.v (Word.x w) == s.v (Word.y w)) == false) ?_
    rw [Bool.eq_iff_iff]
    simp [skips]
  | skp =>
    obtain ⟨down, held, exec⟩ := Fault.exists_of_bind_eq_ok exec
    cases exec
    refine following_of_skips (down == true) ?_
    rw [Bool.eq_iff_iff]
    simp [skips, Keypad.exists_mem_pressed_iff held]
  | sknp =>
    obtain ⟨down, held, exec⟩ := Fault.exists_of_bind_eq_ok exec
    cases exec
    refine following_of_skips (down == false) ?_
    rw [Bool.eq_iff_iff]
    simp [skips, Keypad.exists_mem_pressed_iff held]
  | ldVxK =>
    rcases key : s.keypad.highest? with - | k
    · have up : s.keypad.pressed = [] := Keypad.highest?_eq_none_iff.1 key
      cases (exec_awaitKey_of_up key).symm.trans exec
      show some (if s.keypad.pressed = [] then _ else _) = some s.pc.toNat
      rw [if_pos up]
    · have down : s.keypad.pressed ≠ [] := Keypad.pressed_ne_nil key
      cases (exec_awaitKey_of_down key).symm.trans exec
      show some (if s.keypad.pressed = [] then _ else _) = some (s.pc + 2).toNat
      rw [if_neg down, toNat_pc_add_two]
  | ldReg | or | and | xor | addReg | sub | shr | subn | shl =>
    cases exec
    exact following_of_pc (s.pc_finish _ _ _)
  | drw | ldB | ldMemVx =>
    obtain ⟨part, -, exec⟩ := Fault.exists_of_bind_eq_ok exec
    cases exec
    exact following_of_pc rfl
  | ldVxMem =>
    obtain ⟨bytes, -, exec⟩ := Fault.exists_of_bind_eq_ok exec
    cases exec
    refine following_of_pc ?_
    show (s.putV 0 bytes).pc + 2 = s.pc + 2
    rw [pc_putV]
  | cls | ldImm | addImm | ldI | rnd | ldVxDt | ldDtVx | ldStVx | addI | ldF =>
    cases exec
    exact following_of_pc rfl

end State

namespace Machine

variable {m : Machine} {w answer : Word} {op : Opcode}

/-- A call pushes the address behind it. -/
theorem entries_of_call (fits : Opcode.call.Fits w) (h : (m.execute w).answer = .ok answer) :
    (m.execute w).machine.entries = m.entries ++ [m.state.pc + 2] := by
  obtain ⟨i, e, decodes, exec, state⟩ := exists_exec_of_execute h
  cases (decode_of_fits fits).symm.trans decodes
  obtain ⟨stack, pushed, exec⟩ := Fault.exists_of_bind_eq_ok exec
  cases exec
  have behind : Word.ofInt (m.state.pc.toNat + 2) = m.state.pc + 2 := by
    have sum : (m.state.pc.toNat : Int) + 2 = ((m.state.pc.toNat + 2 : Nat) : Int) := rfl
    apply BitVec.eq_of_toNat_eq
    rw [sum, Word.ofInt, BitVec.ofInt_natCast, BitVec.toNat_ofNat, State.toNat_pc_add_two]
  rw [Machine.entries, state, State.stack_tally]
  show stack.entries = _
  rw [CallStack.entries_of_push pushed, behind]
  rfl

/-- During a wait the program counter moves when a key is down. -/
theorem toNat_pc_executeNext {x : RegIndex} (waits : m.state.mode = .waitingForKey)
    (register : m.state.waitRegister = some x) :
    m.executeNext.machine.state.pc.toNat =
      if m.state.keypad.pressed = [] then m.state.pc.toNat
      else (m.state.pc.toNat + 2) % 0x10000 := by
  rcases key : m.state.keypad.highest? with - | k
  · rw [executeNext_of_waiting waits (.inl key), if_pos (Keypad.highest?_eq_none_iff.1 key)]
  · rw [executeNext_of_key waits register key, if_neg (Keypad.pressed_ne_nil key)]
    exact m.state.toNat_pc_add_two

/-- **Where a machine goes on.** A word that is not refused is a word of one opcode, and it takes
the program counter to the address of that opcode; a call pushes the address behind it. During a
wait the program counter stays while no key is down, and goes on to the next word otherwise. -/
theorem pc_eq_following (m : Machine) :
    (∀ w answer, (m.execute w).answer = .ok answer →
      ∃ op : Opcode, op.Fits w ∧
        m.state.following w op = some (m.execute w).machine.state.pc.toNat ∧
        (op = .call → (m.execute w).machine.entries = m.entries ++ [m.state.pc + 2])) ∧
    ∀ x, m.state.mode = .waitingForKey → m.state.waitRegister = some x →
      m.executeNext.machine.state.pc.toNat =
        if m.state.keypad.pressed = [] then m.state.pc.toNat
        else (m.state.pc.toNat + 2) % 0x10000 := by
  constructor
  · intro w answer h
    obtain ⟨i, e, decodes, exec, state⟩ := exists_exec_of_execute h
    obtain ⟨op, fits, rfl⟩ := decode_eq_some_iff.1 decodes
    refine ⟨op, fits, ?_, ?_⟩
    · rw [state, State.pc_tally]
      exact State.following_of_exec exec
    · rintro rfl
      exact entries_of_call fits h
  · intro x waits register
    exact toNat_pc_executeNext waits register

/-- A machine at the last even address. -/
def atLastWord : Machine := standard 0xFFFE

/-- The same machine after it has begun to wait for a key and one is down. -/
def heldAtLastWord : Machine := atLastWord.after [.execute 0xF10A, .keyDown 5]

/-- From there a skip goes round to the second word, the address behind a call is the first one, and
so is the one where a wait goes on. -/
theorem pc_at_last_word :
    (atLastWord.execute 0x3000).machine.state.pc.toNat = 2 ∧
    (atLastWord.execute 0x2ABC).machine.entries = [0] ∧
    heldAtLastWord.executeNext.machine.state.pc.toNat = 0 := by
  refine ⟨?_, ?_, ?_⟩
  · obtain ⟨op, fits, at_two, -⟩ := (pc_eq_following atLastWord).1 0x3000 0x3000 (by rfl)
    obtain rfl := Opcode.eq_of_fits fits (show Opcode.seImm.Fits 0x3000 by decide)
    have skips : atLastWord.state.following 0x3000 .seImm = some 2 := by decide +kernel
    exact Option.some.inj (at_two.symm.trans skips)
  · obtain ⟨op, fits, -, pushes⟩ := (pc_eq_following atLastWord).1 0x2ABC 0x2ABC (by rfl)
    exact pushes (Opcode.eq_of_fits fits (by decide))
  · exact (pc_eq_following heldAtLastWord).2 1 (by rfl) (by rfl)

end Machine

end Chip8
