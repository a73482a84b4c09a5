import Chip8.Instr.Encoding
import Chip8.Proofs.ControlFlow
import Chip8.Proofs.Faults
import Chip8.Proofs.Frame
import Chip8.Proofs.Step

/-!
# A loaded program is executed as it is written

A machine has its program in memory and fetches a word before it executes it. A host can also give
it words to execute. For a text without jumps, calls, skips and waits that does not write to
memory, both come to the same (`Machine.runs_text_of_loadProgram`): loading the text and letting
the machine go on gives, word by word, what executing the words of the text gives, and it stands
behind the text when none was refused.

What carries this is `Machine.AtText`: the machine runs, and its memory spells the rest of the text
from the program counter on. Loading gives that for the whole text (`Memory.spells_of_load`),
because a text that fits ends within memory, so its first address is not changed when it becomes the
program counter. And an instruction of such a text (`Opcode.straightLine`) leaves memory and mode
alone and goes on to the next word, whatever else it does (`State.goesOn_of_exec`).
-/

namespace Chip8

/-- The two bytes of a word, the high one first. -/
def Word.bytes (w : Word) : List Byte :=
  [BitVec.ofNat 8 (w.toNat / 256), BitVec.ofNat 8 (w.toNat % 256)]

/-- The bytes of a text, as they stand in a program image. -/
def Word.encode (ws : List Word) : List Byte := ws.flatMap bytes

@[simp] theorem Word.length_encode (ws : List Word) : (Word.encode ws).length = 2 * ws.length := by
  induction ws with
  | nil => rfl
  | cons w ws ih =>
    rw [encode, List.flatMap_cons, List.length_append, ← encode, ih, List.length_cons, bytes]
    simp only [List.length_cons, List.length_nil]
    omega

/-- A word is put together again from its two bytes. -/
theorem Word.ofBytes_bytes (w : Word) :
    Word.ofBytes (BitVec.ofNat 8 (w.toNat / 256)) (BitVec.ofNat 8 (w.toNat % 256)) = w := by
  have below : w.toNat < 65536 := w.isLt
  have bytes := Word.ofInt_eq_ofBytes (BitVec.ofNat 8 (w.toNat / 256))
    (BitVec.ofNat 8 (w.toNat % 256))
  have whole := Word.toNat_ofInt (256 * (BitVec.ofNat 8 (w.toNat / 256)).toNat +
    (BitVec.ofNat 8 (w.toNat % 256)).toNat)
  rw [bytes, BitVec.toNat_ofNat, BitVec.toNat_ofNat] at whole
  apply BitVec.eq_of_toNat_eq
  omega

/-! ### Memory that spells a text -/

namespace Memory

variable {size : Nat} {m : Memory size}

/-- From an address on, the words of a text can be read. -/
def Spells (m : Memory size) (address : Nat) : List Word → Prop
  | [] => True
  | w :: ws => m.readWord address = .ok w ∧ m.Spells (address + 2) ws

/-- A word can be read whose two bytes stand within memory. -/
theorem readWord_of_cells {address : Nat} {high low : Byte} (within : address + 2 ≤ size)
    (first : m.cell address = high) (second : m.cell (address + 1) = low) :
    m.readWord address = .ok (Word.ofBytes high low) := by
  have span : checkSpan size address 2 = .ok () := checkSpan_ok (.inr ⟨by omega, by omega⟩)
  rw [readWord, span, ← first, ← second]
  rfl

/-- **Memory spells a text whose bytes stand in it.** -/
theorem spells_of_cells {ws : List Word} {address : Nat} (within : address + 2 * ws.length ≤ size)
    (cells : ∀ k (h : k < (Word.encode ws).length), m.cell (address + k) = (Word.encode ws)[k]) :
    m.Spells address ws := by
  induction ws generalizing address with
  | nil => trivial
  | cons w ws ih =>
    rw [List.length_cons] at within
    have length : (Word.encode (w :: ws)).length = 2 * ws.length + 2 := by
      rw [Word.length_encode, List.length_cons]
      omega
    have first : m.cell address = _ := cells 0 (by omega)
    have second := cells 1 (by omega)
    refine ⟨?_, ih (by omega) fun k h ↦ ?_⟩
    · rw [readWord_of_cells (by omega) first second]
      exact congrArg Except.ok (Word.ofBytes_bytes w)
    · rw [Word.length_encode] at h
      have later := cells (k + 2) (by omega)
      rw [show address + 2 + k = address + (k + 2) by omega, later]
      rfl

/-- A program that is loaded stands in memory from its origin on, and ends within it. -/
theorem spells_of_load {m' : Memory standardSize} {m : Memory standardSize} {ws : List Word}
    {origin : Int} (nonempty : ws ≠ []) (loaded : m.load (Word.encode ws) origin = .ok m') :
    0 ≤ origin ∧ origin + 2 * ws.length ≤ standardSize ∧ m'.Spells origin.toNat ws := by
  have some : 0 < ws.length := List.length_pos_iff.2 nonempty
  have length := Word.length_encode ws
  rw [load, length] at loaded
  split at loaded
  · cases loaded
  · next fits =>
    obtain ⟨_, span, written⟩ := Fault.exists_of_bind_eq_ok loaded
    cases written
    rw [length, checkSpan_eq_ok_iff] at span
    have room : max standardSize Font.size = 4096 := rfl
    have size : standardSize = 4096 := rfl
    have within : 0 ≤ origin ∧ origin + 2 * ws.length ≤ 4096 := by
      rcases span with none | within
      · omega
      · exact ⟨within.1, by omega⟩
    refine ⟨within.1, by omega, spells_of_cells (by omega) fun k h ↦ ?_⟩
    rw [cell, getElem?_put_add _ _ h (by omega)]
    rfl

end Memory

/-! ### Straight lines -/

/-- The instructions that go on to the next word and do not write to memory. -/
def Opcode.straightLine : List Opcode :=
  [cls, ldImm, addImm, ldReg, or, and, xor, addReg, sub, shr, subn, shl, ldI, rnd, drw, ldVxDt,
    ldDtVx, ldStVx, addI, ldF, ldVxMem]

/-- Whether a word is an instruction of a straight line. -/
def Word.IsStraight (w : Word) : Prop := ∃ op ∈ Opcode.straightLine, op.Fits w

instance (w : Word) : Decidable w.IsStraight :=
  inferInstanceAs (Decidable (∃ op ∈ Opcode.straightLine, op.Fits w))

namespace State

variable {s : State} {op : Opcode} {w : Word} {e : Effect}

/-- A state that goes on from another one to the next word, with the same memory and mode. -/
structure GoesOn (s t : State) : Prop where
  memory : t.memory = s.memory
  mode : t.mode = s.mode
  pc : t.pc = s.pc + 2

/-- **An instruction of a straight line goes on to the next word.** -/
theorem goesOn_of_exec (straight : op ∈ Opcode.straightLine)
    (exec : s.exec (op.instr w) = .ok e) : s.GoesOn e.state := by
  have frame := frame_of_exec exec
  have next : s.following w op = some (s.pc + 2).toNat := by
    rw [toNat_pc_add_two]
    cases op with
    | jp | call | jpV0 | ret | ldVxK | seImm | sneImm | seReg | sneReg | skp | sknp =>
      exact absurd straight (by decide)
    | _ => rfl
  have pc : e.state.pc = s.pc + 2 :=
    BitVec.eq_of_toNat_eq (Option.some.inj ((following_of_exec exec).symm.trans next))
  -- The instructions that write to memory or start to wait are not among them.
  have writes : (op.instr w).writes .memory = false ∧ (op.instr w).writes .mode = false := by
    cases op with
    | ldB | ldMemVx | ldVxK => exact absurd straight (by decide)
    | _ => exact ⟨rfl, rfl⟩
  exact ⟨frame.memory writes.1, frame.mode writes.2, pc⟩

end State

/-- The outcomes of a session up to the first one that was refused, and that one too. -/
def upToRefusal {ε α : Type} : List (Outcome ε α) → List (Outcome ε α)
  | [] => []
  | o :: os =>
    match o.answer with
    | .error _ => [o]
    | .ok _ => o :: upToRefusal os

namespace Machine

variable {m : Machine} {w w' : Word} {ws : List Word} {reply : Reply} {now : Int}

/-! ### A machine at a text -/

/-- The machine runs, and from the program counter on its memory spells a text. -/
structure AtText (m : Machine) (ws : List Word) : Prop where
  mode : m.state.mode = .running
  spells : m.state.memory.Spells m.state.pc.toNat ws
  within : m.state.pc.toNat + 2 * ws.length ≤ Memory.standardSize

/-- Going on is executing the word at the program counter. -/
theorem perform_executeNext_of_fetched (mode : m.state.mode = .running)
    (read : m.state.memory.readWord m.state.pc.toNat = .ok w) :
    m.perform .executeNext = m.perform (.execute w.toNat) := by
  rw [perform, perform, executeNext_of_readWord_ok mode read, Word.ofInt_toNat]
  rcases answer : (m.execute w).answer with f | w'
  · simp only [Outcome.map, Outcome.mapError, answer, Except.map, Except.mapError]
  · simp only [Outcome.map, Outcome.mapError, answer, Except.map, Except.mapError,
      Function.comp_apply]

/-- A word of a straight line that is executed and not refused goes on. -/
theorem goesOn_execute (straight : w.IsStraight) (answer : (m.execute w).answer = .ok w') :
    m.state.GoesOn (m.execute w).machine.state := by
  obtain ⟨op, listed, fits⟩ := straight
  have decodes := decode_of_fits fits
  rcases exec : m.state.exec (op.instr w) with f | e
  · rw [execute_of_exec_error decodes exec] at answer
    cases answer
  · have goesOn := State.goesOn_of_exec listed exec
    obtain ⟨executed, tally⟩ := e.state.exists_executed_tally
    rw [state_execute_of_exec_ok decodes exec, tally]
    exact ⟨goesOn.memory, goesOn.mode, goesOn.pc⟩

namespace AtText

/-- **One word of the text.** If it is not refused, the machine stands at the next one. -/
theorem next (h : m.AtText (w :: ws)) (straight : w.IsStraight)
    (answer : (m.perform .executeNext).answer = .ok reply) :
    (m.perform .executeNext).machine.AtText ws ∧
      (m.perform .executeNext).machine.state.pc.toNat = m.state.pc.toNat + 2 := by
  obtain ⟨read, rest⟩ := h.spells
  have within := h.within
  rw [List.length_cons] at within
  have size : Memory.standardSize = 4096 := rfl
  have executed : (m.perform .executeNext).machine = (m.execute w).machine := by
    rw [perform, executeNext_of_readWord_ok h.mode read]
    rfl
  obtain ⟨w', completed⟩ : ∃ w', (m.execute w).answer = .ok w' := by
    rcases refused : (m.execute w).answer with f | w'
    · rw [perform, executeNext_of_readWord_ok h.mode read] at answer
      simp only [Outcome.map, Outcome.mapError, refused, Except.map, Except.mapError] at answer
      cases answer
    · exact ⟨w', rfl⟩
  have goesOn := goesOn_execute straight completed
  have pc : (m.execute w).machine.state.pc.toNat = m.state.pc.toNat + 2 := by
    rw [goesOn.pc, BitVec.toNat_add]
    show (m.state.pc.toNat + 2) % 65536 = m.state.pc.toNat + 2
    omega
  rw [executed]
  refine ⟨⟨goesOn.mode.trans h.mode, ?_, ?_⟩, pc⟩
  · rw [goesOn.memory, pc]
    exact rest
  · rw [pc]
    omega

/-- **Going on executes the text**, up to the first word that is refused. -/
theorem upToRefusal_run (h : m.AtText ws) (straight : ∀ w ∈ ws, w.IsStraight) :
    upToRefusal (m.run (List.replicate ws.length .executeNext)) =
      upToRefusal (m.run (ws.map fun w ↦ .execute w.toNat)) := by
  induction ws generalizing m with
  | nil => rfl
  | cons w ws ih =>
    have first := perform_executeNext_of_fetched h.mode h.spells.1
    rw [List.length_cons, List.replicate_succ, List.map_cons, run, run, ← first, upToRefusal,
      upToRefusal]
    rcases answer : (m.perform .executeNext).answer with r | reply
    · rfl
    · have next := (h.next (straight w List.mem_cons_self) answer).1
      exact congrArg _ (ih next fun v hv ↦ straight v (List.mem_cons_of_mem w hv))

/-- If no word is refused, the machine stands behind the text at the end. -/
theorem pc_after (h : m.AtText ws) (straight : ∀ w ∈ ws, w.IsStraight)
    (completed : ∀ o ∈ m.run (List.replicate ws.length .executeNext),
      ∃ reply, o.answer = .ok reply) :
    (m.after (List.replicate ws.length .executeNext)).state.pc.toNat =
      m.state.pc.toNat + 2 * ws.length := by
  induction ws generalizing m with
  | nil => rfl
  | cons w ws ih =>
    rw [List.length_cons, List.replicate_succ, run] at completed
    obtain ⟨⟨reply, answer⟩, later⟩ := List.forall_mem_cons.1 completed
    obtain ⟨next, pc⟩ := h.next (straight w List.mem_cons_self) answer
    have rest := ih next (fun v hv ↦ straight v (List.mem_cons_of_mem w hv)) later
    rw [List.length_cons, List.replicate_succ]
    show ((m.perform .executeNext).machine.after _).state.pc.toNat = _
    rw [rest, pc]
    omega

end AtText

/-- A text that was loaded stands at the program counter, if that was at the origin. -/
theorem atText_load (nonempty : ws ≠ []) (mode : m.state.mode = .running)
    (pc : m.state.pc = Word.ofInt m.setup.origin)
    (loaded : (m.load (Word.encode ws)).answer = .ok ()) :
    (m.load (Word.encode ws)).machine.AtText ws ∧
      ((m.load (Word.encode ws)).machine.state.pc.toNat : Int) = m.setup.origin := by
  rcases written : m.state.memory.load (Word.encode ws) m.setup.origin with f | memory
  · rw [load_of_error written] at loaded
    cases loaded
  · have size : Memory.standardSize = 4096 := rfl
    have some : 0 < ws.length := List.length_pos_iff.2 nonempty
    obtain ⟨nonneg, within, spells⟩ := Memory.spells_of_load nonempty written
    -- The program counter is the origin modulo 65536, and here the origin is below 4096.
    have start : (m.state.pc.toNat : Int) = m.setup.origin := by
      rw [pc, Word.toNat_ofInt]
      exact Int.emod_eq_of_lt nonneg (by omega)
    have start' : m.state.pc.toNat = m.setup.origin.toNat := by omega
    rw [load_of_ok written]
    refine ⟨⟨mode, ?_, ?_⟩, start⟩
    · show memory.Spells m.state.pc.toNat ws
      rw [start']
      exact spells
    · show m.state.pc.toNat + 2 * ws.length ≤ Memory.standardSize
      omega

/-- **A loaded program stands at the program counter.** -/
theorem atText_loadProgram (nonempty : ws ≠ [])
    (loaded : (m.loadProgram (Word.encode ws) now).answer = .ok ()) :
    (m.loadProgram (Word.encode ws) now).machine.AtText ws ∧
      ((m.loadProgram (Word.encode ws) now).machine.state.pc.toNat : Int) = m.setup.origin := by
  have mode : (m.reset now).machine.state.mode = .running := by
    rw [reset_eq]
    rfl
  have setup : (m.reset now).machine.setup = m.setup := by rw [reset_eq]
  have pc : (m.reset now).machine.state.pc = Word.ofInt (m.reset now).machine.setup.origin := by
    rw [reset_eq]
    rfl
  rw [loadProgram_eq] at loaded ⊢
  rw [← setup]
  exact atText_load nonempty mode pc loaded

/-- **A loaded program is executed as it is written.** Let a text of straight lines be loaded, and
not be refused. Going on, once for each word, gives the outcomes of executing the words of the text,
up to the first one that is refused. If none is, the machine stands behind the text. -/
theorem runs_text_of_loadProgram (nonempty : ws ≠ []) (straight : ∀ w ∈ ws, w.IsStraight)
    (loaded : (m.loadProgram (Word.encode ws) now).answer = .ok ()) :
    upToRefusal ((m.loadProgram (Word.encode ws) now).machine.run
        (List.replicate ws.length .executeNext)) =
      upToRefusal ((m.loadProgram (Word.encode ws) now).machine.run
        (ws.map fun w ↦ .execute w.toNat)) ∧
    ((∀ o ∈ (m.loadProgram (Word.encode ws) now).machine.run
        (List.replicate ws.length .executeNext), ∃ reply, o.answer = .ok reply) →
      (((m.loadProgram (Word.encode ws) now).machine.after
        (List.replicate ws.length .executeNext)).state.pc.toNat : Int) =
        m.setup.origin + 2 * ws.length) := by
  obtain ⟨text, origin⟩ := atText_loadProgram nonempty loaded
  refine ⟨text.upToRefusal_run straight, fun completed ↦ ?_⟩
  have behind := text.pc_after straight completed
  omega

/-- A text that takes a random byte, points at the last cells and reads more of them than there
are. -/
def edgeText : List Word := [0xC0FF, 0xAFFD, 0xF465, 0x6B07]

/-- That text is executed as it is written up to its third word, which is refused. Without the words
from there on it is executed to its end. -/
theorem runs_edgeText :
    upToRefusal (((standard 6).loadProgram (Word.encode edgeText) 0).machine.run
        (List.replicate edgeText.length .executeNext)) =
      upToRefusal (((standard 6).loadProgram (Word.encode edgeText) 0).machine.run
        (edgeText.map fun w ↦ .execute w.toNat)) ∧
    (upToRefusal (((standard 6).loadProgram (Word.encode edgeText) 0).machine.run
        (List.replicate edgeText.length .executeNext))).map Outcome.answer =
      [.ok (.instruction (some 0xC0FF)), .ok (.instruction (some 0xAFFD)),
        .error (.fault (.outOfRange .memory 0x1001 0xFFF))] ∧
    ((((standard 6).loadProgram (Word.encode (edgeText.take 2)) 0).machine.after
        (List.replicate 2 .executeNext)).state.pc.toNat : Int) = 6 + 2 * 2 := by
  have straight : ∀ w ∈ edgeText, w.IsStraight := by
    have listed : edgeText.all (fun w ↦ w.IsStraight) = true := by decide
    simpa only [List.all_eq_true, decide_eq_true_eq] using listed
  have completed : ∀ o ∈ ((standard 6).loadProgram (Word.encode (edgeText.take 2)) 0).machine.run
      (List.replicate (edgeText.take 2).length .executeNext), ∃ reply, o.answer = .ok reply := by
    intro o ho
    have answers : (((standard 6).loadProgram (Word.encode (edgeText.take 2)) 0).machine.run
        (List.replicate (edgeText.take 2).length .executeNext)).map Outcome.answer =
        [.ok (.instruction (some 0xC0FF)), .ok (.instruction (some 0xAFFD))] := by
      decide +kernel
    have answer := List.mem_map_of_mem (f := Outcome.answer) ho
    rw [answers] at answer
    rcases List.mem_cons.1 answer with first | later
    · exact ⟨_, first⟩
    · exact ⟨_, List.mem_singleton.1 later⟩
  refine ⟨(runs_text_of_loadProgram (by decide) straight rfl).1, by decide +kernel, ?_⟩
  exact (runs_text_of_loadProgram (by decide) (fun w hw ↦ straight w (List.mem_of_mem_take hw))
    rfl).2 completed

end Machine

end Chip8
