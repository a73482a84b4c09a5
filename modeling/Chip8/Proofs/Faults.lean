import Chip8.Instr.Encoding
import Chip8.Proofs.Clock
import Chip8.Proofs.Reach

/-!
# When a machine refuses

A machine can refuse to execute something for one of five reasons: the word is no instruction, a
call finds the stack full, a return finds it empty, a register names no key, or a span of cells
reaches beyond memory. `State.Refuses`, `Machine.Refuses` and `Machine.RefusesNext` list them, each
with the fault that it gives, and look at nothing but the values that decide: the table of opcodes,
the number of live return addresses, registers, the index register and the program counter.

The main result is `Machine.refuses_iff`. A machine that a host can come to answers with a fault
exactly if it is on the list, and while it waits for a key it refuses nothing. For a single
instruction the same is `State.exec_eq_error_iff`, which goes instruction by instruction and rests
on one lemma for each kind of access. A step could be refused by the clock too, but only if the
timers had no period.
-/

namespace Chip8

/-- The number of cells that an instruction reads or writes at the index register. -/
def Instr.span : Instr → Nat
  | draw _ _ rows => rows
  | digits _ => 3
  | store x => x + 1
  | fetch x => x + 1
  | _ => 0

/-- When a state refuses an instruction, and with which fault. -/
inductive State.Refuses (s : State) : Instr → Fault → Prop
  /-- A call finds every slot live. -/
  | overflow (target : Target) (full : s.stack.entries.length = 16) :
      s.Refuses (.call target) (.stackOverflow s.pc.toNat 16)
  /-- A return finds no live slot. -/
  | underflow (empty : s.stack.entries = []) : s.Refuses .ret (.stackUnderflow s.pc.toNat)
  /-- A register names no key. -/
  | key (down : Bool) {x : RegIndex} (beyond : 15 < (s.v x).toNat) :
      s.Refuses (.skipKey down x) (.outOfRange .key (s.v x).toNat 15)
  /-- A span that is not empty ends beyond memory. The fault names its first cell if that is beyond
  memory too, else its last one. -/
  | span {i : Instr} (touches : 0 < i.span) (beyond : 4096 < s.index.toNat + i.span) :
      s.Refuses i (.outOfRange .memory
        (if 4096 ≤ s.index.toNat then s.index.toNat else s.index.toNat + i.span - 1) 4095)

namespace Machine

/-- When a machine refuses to execute the word congruent to `w`, and with which fault. -/
inductive Refuses (m : Machine) (w : Int) : Fault → Prop
  /-- The word is none of an opcode. -/
  | unknown (undefined : ∀ op : Opcode, ¬op.Fits (Word.ofInt w)) :
      m.Refuses w (.unknownInstruction (w % 0x10000) (some (m.state.pc.toNat : Int)))
  /-- The state refuses the instruction that the word is. -/
  | instruction {op : Opcode} {f : Fault} (fits : op.Fits (Word.ofInt w))
      (refused : m.state.Refuses (op.instr (Word.ofInt w)) f) : m.Refuses w f

/-- The word at the program counter, the cell there as its high byte. -/
def wordAtPc (m : Machine) : Int :=
  256 * (m.state.memory.cell m.state.pc.toNat).toNat +
    (m.state.memory.cell (m.state.pc.toNat + 1)).toNat

/-- When a machine refuses to go on, and with which fault. -/
inductive RefusesNext (m : Machine) : Fault → Prop
  /-- The machine runs, and there is no word at the program counter. -/
  | fetch (running : m.state.mode = .running) (beyond : 4095 ≤ m.state.pc.toNat) :
      m.RefusesNext (.outOfRange .memory (max m.state.pc.toNat 4096 : Nat) 4095)
  /-- The machine runs, and refuses to execute the word at the program counter. -/
  | word {f : Fault} (running : m.state.mode = .running) (within : m.state.pc.toNat < 4095)
      (refused : m.Refuses m.wordAtPc f) : m.RefusesNext f

end Machine

/-! ### What an access is refused for -/

section Accesses

variable {f : Fault}

/-- A push is refused exactly if there are as many live addresses as slots. -/
theorem CallStack.push_eq_error_iff_length {depth : Int} {s : CallStack depth} {address pc : Int} :
    s.push address pc = .error f ↔
      s.entries.length = depth.toNat ∧ .stackOverflow pc depth = f := by
  have le := s.pointer_le
  rw [push, Fault.dite_eq_error_iff, length_entries]
  exact and_congr_left fun _ ↦ by omega

/-- A pop is refused exactly if there is no live address. -/
theorem CallStack.pop_eq_error_iff {depth : Int} {s : CallStack depth} {pc : Int} :
    s.pop pc = .error f ↔ s.entries = [] ∧ .stackUnderflow pc = f := by
  rw [← List.length_eq_zero_iff, length_entries]
  obtain ⟨slots, pointer, le⟩ := s
  cases pointer with
  | zero => simp [pop]
  | succ p => simp [pop]

/-- A key is refused exactly if it is none of the sixteen. -/
theorem Keypad.isDown_eq_error_iff {k : Keypad} {n : Nat} :
    k.isDown n = .error f ↔ 15 < n ∧ .outOfRange .key n 15 = f := by
  rw [isDown, Fault.map_eq_error_iff, key_eq_error_iff]
  exact and_congr_left fun _ ↦ by omega

namespace Memory

variable {m : Memory standardSize} {address count : Nat} {bytes : List Byte}

/-- A span from an address that is not negative is refused exactly if it holds a cell and ends
beyond memory. -/
theorem checkSpan_eq_error_iff :
    checkSpan standardSize address count = .error f ↔
      (0 < count ∧ 4096 < address + count) ∧
        .outOfRange .memory (if 4096 ≤ address then (address : Int) else address + count - 1) 4095
          = f := by
  have size : ((standardSize : Nat) : Int) = 4096 := rfl
  rw [checkSpan, size]
  split
  · constructor
    · nofun
    · rintro ⟨⟨touches, -⟩, -⟩
      omega
  · split
    · next first =>
      rw [if_pos (by omega : 4096 ≤ address)]
      constructor
      · intro refused
        cases refused
        exact ⟨by omega, rfl⟩
      · rintro ⟨-, rfl⟩
        rfl
    · next first =>
      rw [if_neg (by omega : ¬4096 ≤ address)]
      split
      · constructor
        · intro refused
          cases refused
          exact ⟨by omega, rfl⟩
        · rintro ⟨-, rfl⟩
          rfl
      · constructor
        · nofun
        · rintro ⟨⟨-, beyond⟩, -⟩
          omega

theorem readBytes_eq_error_iff {address count : Int} :
    m.readBytes address count = .error f ↔ checkSpan standardSize address count = .error f :=
  Fault.bind_eq_error_iff fun _ ↦ ⟨_, rfl⟩

theorem writeBytes_eq_error_iff {address : Int} :
    m.writeBytes address bytes = .error f ↔
      checkSpan standardSize address bytes.length = .error f :=
  Fault.bind_eq_error_iff fun _ ↦ ⟨_, rfl⟩

/-- There is a word at every address but the last; beyond memory the fault names the first cell that
there is not. -/
theorem readWord_eq_error_iff :
    m.readWord address = .error f ↔
      4095 ≤ address ∧ .outOfRange .memory (max address 4096 : Nat) 4095 = f := by
  have refused : m.readWord address = .error f ↔
      checkSpan standardSize address (2 : Nat) = .error f :=
    Fault.bind_eq_error_iff fun _ ↦ ⟨_, rfl⟩
  have first (beyond : 4095 ≤ address) :
      (if 4096 ≤ address then (address : Int) else address + (2 : Nat) - 1) =
        (max address 4096 : Nat) := by
    split
    · omega
    · omega
  rw [refused, checkSpan_eq_error_iff]
  constructor
  · rintro ⟨⟨-, beyond⟩, rfl⟩
    exact ⟨by omega, by rw [first (by omega)]⟩
  · rintro ⟨beyond, rfl⟩
    exact ⟨⟨by omega, by omega⟩, by rw [first beyond]⟩

theorem readWord_of_lt (h : address < 4095) :
    m.readWord address = .ok (Word.ofBytes (m.cell address) (m.cell (address + 1))) := by
  have size : ((standardSize : Nat) : Int) = 4096 := rfl
  have span : checkSpan standardSize address 2 = .ok () :=
    checkSpan_ok (.inr ⟨Int.natCast_nonneg _, by omega⟩)
  rw [readWord, span]
  rfl

end Memory

end Accesses

/-! ### What an instruction is refused for -/

namespace State

variable {s : State} {i : Instr} {f : Fault}

/-- An instruction that uses neither the call stack nor a key is refused for its span alone. -/
theorem refuses_iff_checkSpan (call : ∀ target, i ≠ .call target) (ret : i ≠ .ret)
    (key : ∀ down x, i ≠ .skipKey down x) :
    s.Refuses i f ↔
      Memory.checkSpan Memory.standardSize s.index.toNat i.span = .error f := by
  constructor
  · intro refused
    cases refused with
    | overflow target full => exact absurd rfl (call target)
    | underflow empty => exact absurd rfl ret
    | key down beyond => exact absurd rfl (key down _)
    | span touches beyond => exact Memory.checkSpan_eq_error_iff.2 ⟨⟨touches, beyond⟩, rfl⟩
  · intro refused
    obtain ⟨⟨touches, beyond⟩, rfl⟩ := Memory.checkSpan_eq_error_iff.1 refused
    exact .span touches beyond

/-- **An instruction is refused exactly for the reasons on the list.** -/
theorem exec_eq_error_iff : s.exec i = .error f ↔ s.Refuses i f := by
  cases i with
  | call target =>
    have refused : s.exec (.call target) = .error f ↔
        s.stack.push (s.pc.toNat + 2) s.pc.toNat = .error f :=
      Fault.bind_eq_error_iff fun _ ↦ ⟨_, rfl⟩
    rw [refused, CallStack.push_eq_error_iff_length]
    constructor
    · rintro ⟨full, rfl⟩
      exact .overflow target full
    · intro refused
      cases refused with
      | overflow target full => exact ⟨full, rfl⟩
      | span touches beyond => cases touches
  | ret =>
    have refused : s.exec .ret = .error f ↔ s.stack.pop s.pc.toNat = .error f :=
      Fault.bind_eq_error_iff fun _ ↦ ⟨_, rfl⟩
    rw [refused, CallStack.pop_eq_error_iff]
    constructor
    · rintro ⟨empty, rfl⟩
      exact .underflow empty
    · intro refused
      cases refused with
      | underflow empty => exact ⟨empty, rfl⟩
      | span touches beyond => cases touches
  | skipKey down x =>
    have refused : s.exec (.skipKey down x) = .error f ↔
        s.keypad.isDown (s.v x).toNat = .error f :=
      Fault.bind_eq_error_iff fun _ ↦ ⟨_, rfl⟩
    rw [refused, Keypad.isDown_eq_error_iff]
    constructor
    · rintro ⟨beyond, rfl⟩
      exact .key down beyond
    · intro refused
      cases refused with
      | key down beyond => exact ⟨beyond, rfl⟩
      | span touches beyond => cases touches
  | draw x y rows =>
    have refused : s.exec (.draw x y rows) = .error f ↔
        s.memory.readBytes s.index.toNat (rows.val : Int) = .error f :=
      Fault.bind_eq_error_iff fun _ ↦ ⟨_, rfl⟩
    rw [refused, Memory.readBytes_eq_error_iff,
      refuses_iff_checkSpan (i := .draw x y rows) nofun nofun nofun]
    rfl
  | digits x =>
    have refused : s.exec (.digits x) = .error f ↔
        s.memory.writeBytes s.index.toNat (Byte.digits (s.v x)) = .error f :=
      Fault.bind_eq_error_iff fun _ ↦ ⟨_, rfl⟩
    rw [refused, Memory.writeBytes_eq_error_iff,
      refuses_iff_checkSpan (i := .digits x) nofun nofun nofun]
    rfl
  | store x =>
    have refused : s.exec (.store x) = .error f ↔
        s.memory.writeBytes s.index.toNat (s.registers.v.toList.take (x.val + 1)) = .error f :=
      Fault.bind_eq_error_iff fun _ ↦ ⟨_, rfl⟩
    have length : (s.registers.v.toList.take (x.val + 1)).length = (Instr.store x).span := by
      simp only [List.length_take, Vector.length_toList, Instr.span]
      omega
    rw [refused, Memory.writeBytes_eq_error_iff,
      refuses_iff_checkSpan (i := .store x) nofun nofun nofun, length]
  | fetch x =>
    have refused : s.exec (.fetch x) = .error f ↔
        s.memory.readBytes s.index.toNat (x.val + 1) = .error f :=
      Fault.bind_eq_error_iff fun _ ↦ ⟨_, rfl⟩
    rw [refused, Memory.readBytes_eq_error_iff,
      refuses_iff_checkSpan (i := .fetch x) nofun nofun nofun]
    rfl
  | _ =>
    -- The others check nothing, and their span is empty.
    refine Iff.trans ?_ (refuses_iff_checkSpan ?_ ?_ ?_).symm
    · exact ⟨nofun, nofun⟩
    · nofun
    · nofun
    · nofun

end State

/-! ### What a machine refuses -/

/-- Two bytes as a word, by numbers. -/
theorem Word.ofInt_eq_ofBytes (high low : Byte) :
    Word.ofInt (256 * high.toNat + low.toNat) = Word.ofBytes high low := by
  have below : low.toNat < 2 ^ 8 := low.isLt
  have highBelow : high.toNat < 2 ^ 8 := high.isLt
  have bytes := Word.toNat_ofBytes high low
  have word := Word.toNat_ofInt (256 * high.toNat + low.toNat)
  apply BitVec.eq_of_toNat_eq
  omega

namespace Machine

variable {m : Machine} {w : Int} {f : Fault} {now : Int}

/-- **A word is refused exactly for the reasons on the list.** -/
theorem execute_eq_error_iff : (m.execute (Word.ofInt w)).answer = .error f ↔ m.Refuses w f := by
  constructor
  · intro refused
    rcases m.execute_cases (Word.ofInt w) with
      ⟨decodes, eq⟩ | ⟨i, f', decodes, exec, eq⟩ | ⟨i, e, -, -, eq⟩
    · rw [eq, Word.toNat_ofInt] at refused
      cases refused
      exact .unknown (decode_eq_none_iff.1 decodes)
    · rw [eq] at refused
      cases refused
      obtain ⟨op, fits, rfl⟩ := decode_eq_some_iff.1 decodes
      exact .instruction fits (State.exec_eq_error_iff.1 exec)
    · rw [eq] at refused
      cases refused
  · intro refused
    cases refused with
    | unknown undefined =>
      rw [execute_of_decode_eq_none (decode_eq_none_iff.2 undefined), Word.toNat_ofInt]
    | instruction fits refused =>
      rw [execute_of_exec_error (decode_of_fits fits) (State.exec_eq_error_iff.2 refused)]

/-- A word that is not refused is the answer. -/
theorem execute_eq_ok (accepted : ∀ f, ¬m.Refuses w f) :
    (m.execute (Word.ofInt w)).answer = .ok (Word.ofInt w) := by
  rcases m.execute_cases (Word.ofInt w) with ⟨-, eq⟩ | ⟨i, f', -, -, eq⟩ | ⟨i, e, -, -, eq⟩
  · exact absurd (execute_eq_error_iff.1 (congrArg Outcome.answer eq)) (accepted _)
  · exact absurd (execute_eq_error_iff.1 (congrArg Outcome.answer eq)) (accepted _)
  · rw [eq]

/-- A machine that waits for a key goes on waiting or does not, and either way it is not refused. -/
theorem executeNext_eq_ok_of_waiting (waiting : m.state.mode ≠ .running) :
    m.executeNext.answer = .ok m.last := by
  rcases m.executeNext_cases with
    ⟨-, -, eq⟩ | ⟨x, key, -, -, -, eq⟩ | ⟨f, running, -, -⟩ | ⟨w, running, -, -⟩
  · rw [eq]
  · rw [eq]
  · exact absurd running waiting
  · exact absurd running waiting

/-- **A machine refuses to go on exactly for the reasons on the list.** -/
theorem executeNext_eq_error_iff : m.executeNext.answer = .error f ↔ m.RefusesNext f := by
  -- Where there is a word, going on is executing it; where there is none, only the fetch can fail.
  by_cases running : m.state.mode = .running
  · by_cases within : m.state.pc.toNat < 4095
    · have read := m.state.memory.readWord_of_lt within
      have executed : m.executeNext.answer = .error f ↔ m.Refuses m.wordAtPc f := by
        rw [executeNext_of_readWord_ok running read, ← Word.ofInt_eq_ofBytes]
        exact Fault.map_eq_error_iff.trans execute_eq_error_iff
      rw [executed]
      constructor
      · exact .word running within
      · intro refused
        cases refused with
        | fetch running beyond => omega
        | word running within refused => exact refused
    · have beyond : 4095 ≤ m.state.pc.toNat := by omega
      have read := (Memory.readWord_eq_error_iff (m := m.state.memory)).2 ⟨beyond, rfl⟩
      rw [executeNext_of_readWord_error running read]
      constructor
      · intro refused
        cases refused
        exact .fetch running beyond
      · intro refused
        cases refused with
        | fetch running beyond => rfl
        | word running within refused => omega
  · rw [executeNext_eq_ok_of_waiting running]
    constructor
    · nofun
    · intro refused
      cases refused with
      | fetch running' beyond => exact absurd running' running
      | word running' within refused => exact absurd running' running

/-- With a period a step refuses what its instruction refuses. -/
theorem step_eq_error_iff (period : m.state.timers.period ≠ 0) {r : Refusal} :
    (m.step now).answer = .error r ↔ ∃ f, r = .fault f ∧ m.RefusesNext f := by
  rw [answer_step period]
  constructor
  · intro refused
    cases answer : m.executeNext.answer with
    | error f =>
      rw [answer] at refused
      cases refused
      exact ⟨f, rfl, executeNext_eq_error_iff.1 answer⟩
    | ok last =>
      rw [answer] at refused
      cases refused
  · rintro ⟨f, rfl, refused⟩
    rw [executeNext_eq_error_iff.2 refused]
    rfl

theorem step_eq_ok_of_waiting (period : m.state.timers.period ≠ 0)
    (waiting : m.state.mode ≠ .running) : (m.step now).answer = .ok m.last := by
  rw [answer_step period, executeNext_eq_ok_of_waiting waiting]
  rfl

/-- **What a machine that a host can come to refuses, and with which faults.** -/
theorem refuses_iff (h : m.Reachable) :
    (∀ (w : Int) (f : Fault), (m.execute (Word.ofInt w)).answer = .error f ↔ m.Refuses w f) ∧
    (∀ w : Int, (∀ f, ¬m.Refuses w f) →
      (m.execute (Word.ofInt w)).answer = .ok (Word.ofInt w)) ∧
    (∀ f, m.executeNext.answer = .error f ↔ m.RefusesNext f) ∧
    (∀ (now : Int) (r : Refusal),
      (m.step now).answer = .error r ↔ ∃ f, r = .fault f ∧ m.RefusesNext f) ∧
    (m.state.mode ≠ .running → m.executeNext.answer = .ok m.last ∧
      ∀ now, (m.step now).answer = .ok m.last) := by
  have period := h.inRange.period_pos.ne'
  refine ⟨fun w f ↦ execute_eq_error_iff, fun w ↦ execute_eq_ok,
    fun f ↦ executeNext_eq_error_iff, fun now r ↦ step_eq_error_iff period, fun waiting ↦ ?_⟩
  exact ⟨executeNext_eq_ok_of_waiting waiting, fun now ↦ step_eq_ok_of_waiting period waiting⟩

/-- At the last address there is no word to go on with, and what is no instruction is refused there
too. -/
theorem refuses_at_last_address :
    ((standard 0xFFF).execute (Word.ofInt (-1))).answer =
      .error (.unknownInstruction 0xFFFF (some 0xFFF)) ∧
    ((standard 0xFFF).execute (Word.ofInt 0x00EE)).answer = .error (.stackUnderflow 0xFFF) ∧
    (standard 0xFFF).executeNext.answer = .error (.outOfRange .memory 0x1000 0xFFF) ∧
    ((standard 0xFFF).step 5).answer = .error (.fault (.outOfRange .memory 0x1000 0xFFF)) := by
  obtain ⟨execute, -, next, step, -⟩ := refuses_iff (reachable_standard 0xFFF)
  have beyond : (standard 0xFFF).RefusesNext (.outOfRange .memory 0x1000 0xFFF) :=
    .fetch rfl (by decide)
  have ret : Opcode.ret.Fits (Word.ofInt 0x00EE) := ⟨by decide, by decide⟩
  exact ⟨(execute _ _).2 (.unknown (decode_eq_none_iff.1 rfl)),
    (execute _ _).2 (.instruction ret (.underflow rfl)), (next _).2 beyond,
    (step 5 _).2 ⟨_, rfl, beyond⟩⟩

end Machine

end Chip8
