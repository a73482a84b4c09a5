import Chip8.Instr.Encoding
import Chip8.Machine.Command
import Chip8.Proofs.Frame
import Chip8.Proofs.Step

/-!
# The footprint of an instruction

A word that is not refused changes only what it names. `State.frame_of_exec` says so of the parts
that an instruction writes as a whole; here it is said of what is finer than a part: the registers
one by one (`State.registerFrame_of_exec`) and the cells of the memory
(`State.getElem?_memory_of_exec`).

`State.ChangesOnly` puts all of this in terms of words: for everything that a word can change it
names the words that can change it. It is the negative side of what instructions do, and nothing is
said about the values that they write. The main result is `Machine.changesOnly_of_execute`.
-/

namespace Chip8

/-! ### Registers -/

/-- Whether an operation on two registers has a flag. -/
def Alu.flagged : Alu → Bool
  | add => true
  | sub => true
  | subn => true
  | shr => true
  | shl => true
  | _ => false

/-- Whether an instruction can write a register. -/
def Instr.writesV : Instr → RegIndex → Bool
  | loadByte x _, r => r = x
  | addByte x _, r => r = x
  | alu op x _, r => r = x ∨ op.flagged ∧ r = .flag
  | random x _, r => r = x
  | draw .., r => r = .flag
  | readDelay x, r => r = x
  | awaitKey x, r => r = x
  | addIndex _, r => r = .flag
  | fetch x, r => r ≤ x
  | _, _ => false

/-- Whether an instruction writes the index register. -/
def Instr.writesIndex : Instr → Bool
  | loadIndex _ => true
  | addIndex _ => true
  | glyph _ => true
  | _ => false

namespace State

variable {s t : State} {i : Instr} {e : Effect}

/-- A state agrees with an earlier one on the registers that an instruction between them does not
write. -/
structure RegisterFrame (i : Instr) (s t : State) : Prop where
  index : i.writesIndex = false → t.index = s.index
  v : ∀ r, i.writesV r = false → t.v r = s.v r

/-- Only the program counter moved. -/
theorem RegisterFrame.of_same (index : t.index = s.index) (v : t.v = s.v) :
    RegisterFrame i s t where
  index _ := index
  v _ _ := by rw [v]

/-- One register was written, and the index register was not. -/
theorem RegisterFrame.of_setV {x : RegIndex} (b : Byte) (writes : i.writesV x = true)
    (index : t.index = s.index) (v : t.v = (s.setV x b).v) : RegisterFrame i s t where
  index _ := index
  v r hr := by
    have other : r ≠ x := by
      rintro rfl
      rw [writes] at hr
      cases hr
    rw [v, v_setV_of_ne s other]

/-- A result was written, with its flag if there is one. -/
theorem RegisterFrame.of_finish {x : RegIndex} (result : Byte) (flag : Option Bool)
    (writes : i.writesV x = true) (flags : flag.isSome = true → i.writesV .flag = true) :
    RegisterFrame i s (s.finish x result flag) := by
  cases flag with
  | none => exact .of_setV result writes rfl rfl
  | some f =>
    have first : RegisterFrame i s (s.setFlag f) :=
      .of_setV (if f then 1 else 0) (flags rfl) rfl rfl
    have second : RegisterFrame i (s.setFlag f) (s.finish x result (some f)) :=
      .of_setV result writes rfl rfl
    exact ⟨fun _ ↦ rfl, fun r hr ↦ (second.v r hr).trans (first.v r hr)⟩

/-- Registers before and after those that are filled stay. -/
theorem v_putV_of_outside (s : State) {k : Nat} (bytes : List Byte) {r : RegIndex}
    (h : r.val < k ∨ k + bytes.length ≤ r.val) : (s.putV k bytes).v r = s.v r := by
  induction bytes generalizing s k with
  | nil => rfl
  | cons b bs ih =>
    rw [List.length_cons] at h
    rw [putV, ih _ (by omega)]
    split
    · refine v_setV_of_ne s (fun same ↦ ?_) b
      rw [same] at h
      simp only at h
      omega
    · rfl

theorem index_putV (s : State) (k : Nat) (bytes : List Byte) :
    (s.putV k bytes).index = s.index := by
  induction bytes generalizing s k with
  | nil => rfl
  | cons b bs ih =>
    rw [putV, ih]
    split
    · rfl
    · rfl

end State

namespace Memory

variable {size : Nat} {m m' : Memory size} {i k a : Nat} {bytes : List Byte}

/-- No more bytes are read than were asked for. -/
theorem length_le_of_readBytes (h : m.readBytes i k = .ok bytes) : bytes.length ≤ k := by
  obtain ⟨-, rfl⟩ := readBytes_eq_ok_iff.1 h
  exact Nat.le_of_eq (by rw [List.length_map, List.length_range])

/-- Cells before and after those that are written stay. -/
theorem getElem?_of_writeBytes (h : m.writeBytes i bytes = .ok m')
    (outside : a < i ∨ i + bytes.length ≤ a) : m'.cells[a]? = m.cells[a]? := by
  obtain ⟨-, -, put⟩ := Fault.exists_of_bind_eq_ok h
  cases put
  exact getElem?_put_of_outside m.cells bytes outside

end Memory

/-- The operations without a flag leave it alone. -/
theorem Alu.isSome_apply (op : Alu) (a b : Byte) : (op.apply a b).2.isSome = op.flagged := by
  cases op <;> rfl

namespace State

variable {s t : State} {i : Instr} {e : Effect}

/-- **An instruction agrees with the state before it on the registers that it does not write.** -/
theorem registerFrame_of_exec (h : s.exec i = .ok e) : RegisterFrame i s e.state := by
  cases i with
  | clear | jump target | skipByte equal x nn | skipReg equal x y | jumpOffset target | setDelay x
  | setSound x =>
    cases h
    exact .of_same rfl rfl
  | ret | call target | skipKey down x | digits x | store x =>
    obtain ⟨part, -, h⟩ := Fault.exists_of_bind_eq_ok h
    cases h
    exact .of_same rfl rfl
  | loadIndex target | glyph x =>
    cases h
    refine ⟨fun keeps ↦ ?_, fun r _ ↦ rfl⟩
    cases keeps
  | loadByte x nn | addByte x nn | readDelay x | random x nn =>
    cases h
    exact .of_setV _ (decide_eq_true rfl) rfl rfl
  | alu op x y =>
    cases h
    refine .of_finish _ _ (decide_eq_true (.inl rfl)) fun flags ↦ ?_
    have flagged : op.flagged = true := (op.isSome_apply (s.v x) (s.v y)).symm.trans flags
    exact decide_eq_true (.inr ⟨flagged, rfl⟩)
  | draw x y rows =>
    obtain ⟨sprite, -, h⟩ := Fault.exists_of_bind_eq_ok h
    cases h
    exact .of_setV _ (decide_eq_true rfl) rfl rfl
  | awaitKey x =>
    cases h
    rw [awaitKey]
    cases s.keypad.highest? with
    | some key => exact .of_setV _ (decide_eq_true rfl) rfl rfl
    | none => exact .of_same rfl rfl
  | addIndex x =>
    cases h
    refine ⟨fun keeps ↦ ?_, fun r hr ↦ v_setV_of_ne s (of_decide_eq_false hr) _⟩
    cases keeps
  | fetch x =>
    obtain ⟨bytes, read, h⟩ := Fault.exists_of_bind_eq_ok h
    cases h
    have few : bytes.length ≤ x.val + 1 := Memory.length_le_of_readBytes read
    refine ⟨fun _ ↦ index_putV s 0 bytes, fun r hr ↦ v_putV_of_outside s bytes (.inr ?_)⟩
    have above : ¬r.val ≤ x.val := of_decide_eq_false hr
    omega

end State

/-! ### Memory -/

/-- How many cells of the memory an instruction writes, from the one at the index register on. -/
def Instr.writtenCells : Instr → Nat
  | digits _ => 3
  | store x => x.val + 1
  | _ => 0

namespace State

variable {s : State} {i : Instr} {e : Effect} {a : Nat}

/-- **An instruction writes no cell of the memory but those.** -/
theorem getElem?_memory_of_exec (h : s.exec i = .ok e)
    (outside : a < s.index.toNat ∨ s.index.toNat + i.writtenCells ≤ a) :
    e.state.memory.cells[a]? = s.memory.cells[a]? := by
  cases i with
  | digits x =>
    obtain ⟨memory, written, h⟩ := Fault.exists_of_bind_eq_ok h
    cases h
    exact Memory.getElem?_of_writeBytes written outside
  | store x =>
    obtain ⟨memory, written, h⟩ := Fault.exists_of_bind_eq_ok h
    cases h
    refine Memory.getElem?_of_writeBytes written (outside.imp_right fun above ↦ ?_)
    exact Nat.le_trans (Nat.add_le_add_left (List.length_take_le ..) _) above
  | _ => rw [(frame_of_exec h).memory rfl]

end State

/-! ### The words that can change something -/

/-- The opcodes that write a part. -/
def Part.writers : Part → List Opcode
  | memory => [.ldB, .ldMemVx]
  | stack => [.ret, .call]
  | screen => [.cls, .drw]
  | timers => [.ldDtVx, .ldStVx]
  | mode => [.ldVxK]
  | random => [.rnd]

/-- The opcode that sets a counter. -/
def Timers.Counter.setter : Timers.Counter → Opcode
  | delay => .ldDtVx
  | sound => .ldStVx

namespace Opcode

/-- The opcodes that write `Vx` at once and no other register but the flag. -/
def settersOfVx : List Opcode :=
  [ldImm, addImm, ldReg, or, and, xor, addReg, sub, shr, subn, shl, rnd, ldVxDt]

/-- The opcodes that write the flag, whichever register is `Vx`. -/
def settersOfFlag : List Opcode := [addReg, sub, shr, subn, shl, drw, addI]

/-- The opcodes that write the index register. -/
def settersOfIndex : List Opcode := [ldI, addI, ldF]

variable {op : Opcode} {w : Word} {p : Part} {r : RegIndex}

theorem mem_writers (h : (op.instr w).writes p = true) : op ∈ p.writers := by
  cases p with
  | memory => cases op with
    | ldB | ldMemVx => decide
    | _ => cases h
  | stack => cases op with
    | ret | call => decide
    | _ => cases h
  | screen => cases op with
    | cls | drw => decide
    | _ => cases h
  | timers => cases op with
    | ldDtVx | ldStVx => decide
    | _ => cases h
  | mode => cases op with
    | ldVxK => decide
    | _ => cases h
  | random => cases op with
    | rnd => decide
    | _ => cases h

theorem mem_settersOfIndex (h : (op.instr w).writesIndex = true) : op ∈ settersOfIndex := by
  cases op with
  | ldI | addI | ldF => decide
  | _ => cases h

/-- The words that can write a register. -/
theorem of_writesV (h : (op.instr w).writesV r = true) :
    r = Word.x w ∧ op ∈ settersOfVx ∨ r = Word.x w ∧ op = ldVxK ∨ r ≤ Word.x w ∧ op = ldVxMem ∨
      r = .flag ∧ op ∈ settersOfFlag := by
  cases op with
  | ldImm | addImm | rnd | ldVxDt => exact .inl ⟨of_decide_eq_true h, by decide⟩
  | ldVxK => exact .inr (.inl ⟨of_decide_eq_true h, rfl⟩)
  | ldVxMem => exact .inr (.inr (.inl ⟨of_decide_eq_true h, rfl⟩))
  | drw | addI => exact .inr (.inr (.inr ⟨of_decide_eq_true h, by decide⟩))
  | ldReg | or | and | xor =>
    rcases of_decide_eq_true h with same | ⟨⟨⟩, -⟩
    exact .inl ⟨same, by decide⟩
  | addReg | sub | subn | shr | shl =>
    rcases of_decide_eq_true h with same | ⟨-, same⟩
    · exact .inl ⟨same, by decide⟩
    · exact .inr (.inr (.inr ⟨same, by decide⟩))
  | _ => cases h

/-- The cells that an instruction writes, word by word. -/
theorem of_lt_writtenCells {a start : Nat} (above : start ≤ a)
    (below : a < start + (op.instr w).writtenCells) :
    op = .ldB ∧ a ≤ start + 2 ∨ op = .ldMemVx ∧ a ≤ start + (Word.x w).val := by
  cases op with
  | ldB => exact .inl ⟨rfl, Nat.le_of_lt_succ below⟩
  | ldMemVx => exact .inr ⟨rfl, Nat.le_of_lt_succ below⟩
  | _ => exact absurd below (Nat.not_lt.2 above)

end Opcode

/-- Whether a word is one of some opcodes. -/
def Word.IsOneOf (w : Word) (ops : List Opcode) : Prop := ∃ op ∈ ops, op.Fits w

namespace State

variable {s t : State} {e : Effect} {op : Opcode} {w : Word} {x r : RegIndex}

/-- A state `t` differs from `s` in no more than what a word may change. -/
structure ChangesOnly (w : Word) (s t : State) : Prop where
  /-- The three cells from `I` on under one word, and those from `I` to `I + x` under another. -/
  memory : ∀ a, t.memory.cells[a]? ≠ s.memory.cells[a]? →
    s.index.toNat ≤ a ∧
      (Opcode.ldB.Fits w ∧ a ≤ s.index.toNat + 2 ∨
        Opcode.ldMemVx.Fits w ∧ a ≤ s.index.toNat + (Word.x w).val)
  /-- The pixels and the flag of the screen. -/
  screen : t.screen ≠ s.screen → Word.IsOneOf w [.cls, .drw]
  stack : t.stack ≠ s.stack → Word.IsOneOf w [.ret, .call]
  delay : t.timers.delay ≠ s.timers.delay → Opcode.ldDtVx.Fits w
  sound : t.timers.sound ≠ s.timers.sound → Opcode.ldStVx.Fits w
  index : t.index ≠ s.index → Word.IsOneOf w Opcode.settersOfIndex
  /-- `Vx`, at once or because a key is down; all from `V0` to `Vx`; or the flag. -/
  v : ∀ r, t.v r ≠ s.v r →
    r = Word.x w ∧ Word.IsOneOf w Opcode.settersOfVx ∨
      r = Word.x w ∧ Opcode.ldVxK.Fits w ∧ s.keypad.highest?.isSome = true ∨
      r ≤ Word.x w ∧ Opcode.ldVxMem.Fits w ∨
      r = .flag ∧ Word.IsOneOf w Opcode.settersOfFlag
  mode : t.mode ≠ s.mode → Opcode.ldVxK.Fits w
  waitRegister : t.waitRegister ≠ s.waitRegister → Opcode.ldVxK.Fits w
  /-- One random byte is drawn, or none. -/
  random : t.random = if Opcode.rnd.Fits w then s.random.next.2 else s.random
  keypad : t.keypad = s.keypad
  baseline : t.timers.baseline = s.timers.baseline
  period : t.timers.period = s.timers.period

/-- Counting an instruction changes none of this. -/
theorem ChangesOnly.tally (h : ChangesOnly w s t) : ChangesOnly w s t.tally := by
  obtain ⟨executed, counted⟩ := t.exists_executed_tally
  rw [counted]
  exact { h with }

/-- A key goes to a register at once only if one is down. -/
theorem isSome_highest?_of_exec (h : s.exec (.awaitKey x) = .ok e) (changed : e.state.v r ≠ s.v r) :
    s.keypad.highest?.isSome = true := by
  cases h
  rw [awaitKey] at changed
  cases key : s.keypad.highest? with
  | some k => rfl
  | none =>
    rw [key] at changed
    exact absurd rfl changed

/-- Random bytes are drawn one at a time. -/
theorem random_of_exec (h : s.exec (op.instr w) = .ok e) :
    e.state.random = if op = .rnd then s.random.next.2 else s.random := by
  cases op with
  | rnd =>
    cases h
    rfl
  | _ => exact (frame_of_exec h).random rfl

/-- A counter is set by the instruction for it alone. -/
theorem count_of_exec (c : Timers.Counter) (h : s.exec (op.instr w) = .ok e)
    (other : op ≠ c.setter) : e.state.timers.count c = s.timers.count c := by
  rw [timers_of_exec h]
  cases c with
  | delay => cases op with
    | ldDtVx => exact absurd rfl other
    | _ => rfl
  | sound => cases op with
    | ldStVx => exact absurd rfl other
    | _ => rfl

/-- Of the timers an instruction writes the counters at most. -/
theorem pace_of_exec (h : s.exec i = .ok e) :
    e.state.timers.baseline = s.timers.baseline ∧ e.state.timers.period = s.timers.period := by
  rw [timers_of_exec h]
  split
  · exact ⟨rfl, rfl⟩
  · exact ⟨rfl, rfl⟩
  · exact ⟨rfl, rfl⟩

/-- **An instruction changes only what its word names.** -/
theorem changesOnly_of_exec (fits : op.Fits w) (h : s.exec (op.instr w) = .ok e) :
    ChangesOnly w s e.state := by
  have frame := frame_of_exec h
  have registers := registerFrame_of_exec h
  -- What has changed is a part that the instruction writes, so the word is one of those for it.
  have written {p : Part} (changed : ¬(op.instr w).writes p = false) : Word.IsOneOf w p.writers :=
    ⟨op, Opcode.mem_writers (Bool.of_not_eq_false changed), fits⟩
  have awaits (changed : ¬(op.instr w).writes .mode = false) : Opcode.ldVxK.Fits w := by
    obtain ⟨op', key, fits'⟩ := written changed
    rwa [List.mem_singleton.1 key] at fits'
  have counted (c : Timers.Counter) (changed : e.state.timers.count c ≠ s.timers.count c) :
      c.setter.Fits w := by
    have same : op = c.setter := Decidable.byContradiction fun other ↦
      changed (count_of_exec c h other)
    exact same ▸ fits
  refine
    { screen := fun changed ↦ written (mt frame.screen changed)
      stack := fun changed ↦ written (mt frame.stack changed)
      delay := counted .delay
      sound := counted .sound
      mode := fun changed ↦ awaits (mt frame.mode changed)
      waitRegister := fun changed ↦ awaits (mt frame.waitRegister changed)
      keypad := frame.keypad
      baseline := (pace_of_exec h).1
      period := (pace_of_exec h).2
      memory := ?memory, index := ?index, v := ?v, random := ?random }
  case memory =>
    intro a changed
    have inside := mt (getElem?_memory_of_exec h) changed
    rw [not_or, Nat.not_lt, Nat.not_le] at inside
    refine ⟨inside.1, ?_⟩
    rcases Opcode.of_lt_writtenCells inside.1 inside.2 with ⟨rfl, near⟩ | ⟨rfl, near⟩
    · exact .inl ⟨fits, near⟩
    · exact .inr ⟨fits, near⟩
  case index =>
    intro changed
    have writes := Bool.of_not_eq_false (mt registers.index changed)
    exact ⟨op, Opcode.mem_settersOfIndex writes, fits⟩
  case v =>
    intro r changed
    have writes := Bool.of_not_eq_false (mt (registers.v r) changed)
    rcases Opcode.of_writesV writes with
      ⟨same, setter⟩ | ⟨same, rfl⟩ | ⟨upTo, rfl⟩ | ⟨flag, setter⟩
    · exact .inl ⟨same, op, setter, fits⟩
    · exact .inr (.inl ⟨same, fits, isSome_highest?_of_exec h changed⟩)
    · exact .inr (.inr (.inl ⟨upTo, fits⟩))
    · exact .inr (.inr (.inr ⟨flag, op, setter, fits⟩))
  case random =>
    rw [random_of_exec h]
    have draws : op = .rnd ↔ Opcode.rnd.Fits w := ⟨fun eq ↦ eq ▸ fits, Opcode.eq_of_fits fits⟩
    simp only [draws]

end State

namespace Machine

variable {m : Machine} {w answer : Word}

/-- **A word that is not refused changes only what it names.** -/
theorem changesOnly_of_execute (h : (m.execute w).answer = .ok answer) :
    m.state.ChangesOnly w (m.execute w).machine.state ∧ (m.execute w).machine.setup = m.setup := by
  obtain ⟨i, e, decodes, exec, state⟩ := exists_exec_of_execute h
  obtain ⟨op, fits, rfl⟩ := decode_eq_some_iff.1 decodes
  refine ⟨?_, setup_execute m w⟩
  rw [state]
  exact (State.changesOnly_of_exec fits exec).tally

/-- A machine that is about to store its registers. -/
def storing : Machine :=
  (standard 0x200).after [.setIndex 0x300, .setRegister 0 7, .setRegister 2 9, .setRegister 3 5]

/-- The registers up to `V2` are stored, and the one after them is not. -/
theorem changesOnly_of_store :
    storing.state.ChangesOnly 0xF255 (storing.execute 0xF255).machine.state ∧
    (storing.execute 0xF255).machine.setup = storing.setup ∧
    (List.range' 0x300 4).map (storing.execute 0xF255).machine.state.memory.cell = [7, 0, 9, 0] := by
  obtain ⟨state, setup⟩ := @changesOnly_of_execute storing 0xF255 0xF255 (by rfl)
  exact ⟨state, setup, by decide +kernel⟩

end Machine

end Chip8
