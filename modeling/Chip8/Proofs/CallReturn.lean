import Chip8.Proofs.Edit
import Chip8.Proofs.Frame
import Chip8.Proofs.Step
import Mathlib.Data.List.Infix

/-!
# Every return goes back behind its own call

A call and the return that takes its address can lie any session apart: further calls and returns,
words that are refused, keys, and whatever a host changes from outside. What ties the two together
is the depth of the call stack. While it stays above the depth at which the call was made, the
address that the call pushed and all below it stay as they are (`Machine.take_entries_after`).

Only the live entries count here. A slot that was popped keeps its last address, and a later push
overwrites it; neither shows below the depth that the stack never leaves.

The step behind it is that a command other than a reset pushes one entry, pops one or leaves the
entries alone (`Machine.moves_perform`). A host has no command for the stack. What such a command
can do to the other parts is said along with it, once for all of them (`Machine.yields_perform`).
-/

namespace Chip8

namespace CallStack

variable {depth : Int} {s t : CallStack depth}

/-- How the live entries of a stack can change at once. -/
inductive Moves (s t : CallStack depth) : Prop
  | stays (entries : t.entries = s.entries)
  | pushes (w : Word) (entries : t.entries = s.entries ++ [w])
  | pops (w : Word) (entries : s.entries = t.entries ++ [w])

theorem Moves.refl (s : CallStack depth) : s.Moves s := .stays rfl

/-- **One change leaves the entries alone that lie below the depth before and after it.** -/
theorem Moves.take_entries (h : s.Moves t) {n : Nat} (before : n ≤ s.entries.length)
    (after : n ≤ t.entries.length) : t.entries.take n = s.entries.take n := by
  cases h with
  | stays entries => rw [entries]
  | pushes w entries => rw [entries, List.take_append_of_le_length before]
  | pops w entries =>
    -- The entry that goes lies at the new depth, and so above the ones that count.
    rw [entries, List.take_append_of_le_length after]

/-- While a slot is free, a push adds the address. -/
theorem exists_push_eq_ok (room : s.entries.length < depth.toNat) (address pc : Int) :
    ∃ t, s.push address pc = .ok t ∧ t.entries = s.entries ++ [Word.ofInt address] := by
  cases pushed : s.push address pc with
  | ok t => exact ⟨t, rfl, entries_of_push pushed⟩
  | error f =>
    rw [length_entries] at room
    rw [push, dif_pos room] at pushed
    cases pushed

/-- While there is an entry, a pop answers the latest one. -/
theorem exists_pop_eq_ok {ws : List Word} {w : Word} (latest : s.entries = ws ++ [w]) (pc : Int) :
    ∃ t, s.pop pc = .ok (w, t) ∧ t.entries = ws := by
  cases popped : s.pop pc with
  | error f =>
    obtain ⟨slots, pointer, hle⟩ := s
    have length := congrArg List.length latest
    rw [length_entries, List.length_append] at length
    cases pointer with
    | zero => simp at length
    | succ p => cases popped
  | ok result =>
    obtain ⟨w', t⟩ := result
    have entries := entries_of_pop popped
    rw [latest] at entries
    obtain ⟨same, last⟩ := List.append_inj' entries rfl
    cases last
    exact ⟨t, rfl, same.symm⟩

end CallStack

/-- What executes something pushes one entry, pops one or leaves the entries alone. -/
theorem State.Goes.moves {s t : State} (h : s.Goes t) : s.stack.Moves t.stack := by
  cases h with
  | stays => exact .refl _
  | resumes mode register down => exact .refl _
  | @executes i e exec =>
    rw [State.stack_tally]
    cases i with
    | ret =>
      obtain ⟨⟨w, stack⟩, popped, exec⟩ := Fault.exists_of_bind_eq_ok exec
      cases exec
      exact .pops w (CallStack.entries_of_pop popped)
    | call target =>
      obtain ⟨stack, pushed, exec⟩ := Fault.exists_of_bind_eq_ok exec
      cases exec
      exact .pushes _ (CallStack.entries_of_push pushed)
    | _ =>
      rw [(State.frame_of_exec exec).stack rfl]
      exact .refl _

/-- Whether a command puts the machine back to its power-on state. -/
def Command.resets : Command → Bool
  | reset _ => true
  | loadProgram .. => true
  | _ => false

/-- What a command that does not reset can make of a state. -/
inductive State.Yields (s : State) (c : Command) : State → Prop
  /-- It is refused. -/
  | stays : s.Yields c s
  /-- A part is replaced from outside. -/
  | edits {f : State → Except Fault State} {t : State} (edit : c.edit? = some f)
      (edited : f s = .ok t) : s.Yields c t
  /-- A program is written to memory. -/
  | loads (memory : Memory Memory.standardSize) : s.Yields c { s with memory }
  /-- Something is executed, or nothing, and then time passes. -/
  | goes {t : State} (timers : Timers) (goes : s.Goes t) : s.Yields c { t with timers }

theorem State.Yields.moves {s t : State} {c : Command} (h : s.Yields c t) :
    s.stack.Moves t.stack := by
  cases h with
  | stays => exact .refl _
  | edits edit edited =>
    rw [(Command.frame_of_edit edit edited).stack]
    exact .refl _
  | loads memory => exact .refl _
  | goes timers goes => exact goes.moves

namespace Machine

variable {m : Machine} {c : Command} {cs : List Command}

/-- **What a command that does not reset can do**, also if it is refused. -/
theorem yields_perform (m : Machine) (keeps : c.resets = false) :
    m.state.Yields c (m.perform c).machine.state := by
  rcases edit : c.edit? with _ | f
  · cases c with
    | load values =>
      obtain ⟨memory, loaded⟩ := m.exists_memory_loadValues values
      show m.state.Yields _ (m.loadValues values).machine.state
      rw [loaded]
      exact .loads memory
    | step now =>
      obtain ⟨timers, stepped⟩ := m.exists_timers_step now
      show m.state.Yields _ (m.step now).machine.state
      rw [stepped]
      exact .goes timers m.goes_executeNext
    | executeNext => exact .goes m.executeNext.machine.state.timers m.goes_executeNext
    | execute word =>
      exact .goes (m.execute (Word.ofInt word)).machine.state.timers (m.goes_execute _)
    | advanceTimers elapsed =>
      obtain ⟨timers, advanced⟩ := m.exists_timers_advanceTimers elapsed
      show m.state.Yields _ (m.advanceTimers elapsed).machine.state
      rw [advanced]
      exact .goes timers .stays
    | reset now => cases keeps
    | loadProgram values now => cases keeps
    | _ => cases edit
  · rcases edited : f m.state with e | t
    · rw [perform_of_edit_error edit edited]
      exact .stays
    · rw [perform_of_edit_ok edit edited]
      exact .edits edit edited

/-- The live return addresses, oldest first. -/
def entries (m : Machine) : List Word := m.state.stack.entries

/-- **A command that does not reset pushes one entry, pops one or leaves the entries alone.** -/
theorem moves_perform (m : Machine) (keeps : c.resets = false) :
    m.state.stack.Moves (m.perform c).machine.state.stack :=
  (m.yields_perform keeps).moves

/-- **What lies below a depth that a session never leaves stays as it is.** -/
theorem take_entries_after {n : Nat} (keeps : ∀ c ∈ cs, c.resets = false)
    (above : ∀ ds, ds <+: cs → n ≤ (m.after ds).entries.length) :
    (m.after cs).entries.take n = m.entries.take n := by
  induction cs generalizing m with
  | nil => rfl
  | cons c cs ih =>
    have now := above [] List.nil_prefix
    have next := above [c] (List.prefix_append [c] cs)
    have first := (moves_perform m (keeps c List.mem_cons_self)).take_entries now next
    have later : ((m.perform c).machine.after cs).entries.take n =
        (m.perform c).machine.entries.take n := by
      refine ih (fun d hd ↦ keeps d (List.mem_cons_of_mem c hd)) fun ds hds ↦ ?_
      exact above (c :: ds) (List.cons_prefix_cons.2 ⟨rfl, hds⟩)
    exact later.trans first

/-! ### The call and its return -/

/-- With fewer than sixteen live addresses a call succeeds and adds the address behind it. -/
theorem execute_call {w : Word} {target : Target} (calls : decode w = some (.call target))
    (room : m.entries.length < 16) :
    (m.execute w).answer = .ok w ∧
      (m.execute w).machine.entries = m.entries ++ [Word.ofInt (m.state.pc.toNat + 2)] := by
  obtain ⟨stack, pushed, entries⟩ :=
    CallStack.exists_push_eq_ok room (m.state.pc.toNat + 2) m.state.pc.toNat
  have called : m.state.exec (.call target) =
      .ok ⟨{ m.state with stack }.setPc (target.setWidth 16),
        [.call m.state.pc.toNat target.toNat stack.pointer], []⟩ := by
    rw [State.exec, pushed]
    rfl
  refine ⟨?_, ?_⟩
  · rw [execute_of_exec_ok calls called]
  · rw [Machine.entries, state_execute_of_exec_ok calls called, State.stack_tally]
    exact entries

/-- With a live address a return succeeds, takes it and goes there. -/
theorem execute_ret {w : Word} (returns : decode w = some .ret) {ws : List Word} {latest : Word}
    (entries : m.entries = ws ++ [latest]) :
    (m.execute w).answer = .ok w ∧ (m.execute w).machine.state.pc = latest ∧
      (m.execute w).machine.entries = ws := by
  obtain ⟨stack, popped, rest⟩ := CallStack.exists_pop_eq_ok entries m.state.pc.toNat
  have returned : m.state.exec .ret =
      .ok ⟨{ m.state with stack }.setPc latest,
        [.ret m.state.pc.toNat latest.toNat stack.pointer], []⟩ := by
    rw [State.exec, popped]
    rfl
  refine ⟨?_, ?_, ?_⟩
  · rw [execute_of_exec_ok returns returned]
  · rw [state_execute_of_exec_ok returns returned, State.pc_tally, State.pc_setPc]
  · rw [Machine.entries, state_execute_of_exec_ok returns returned, State.stack_tally]
    exact rest

/-- **Every return goes back behind its own call.** A call made with fewer than sixteen live
addresses succeeds. After any session without a reset that does not leave the depth of the call and
ends at it, a return succeeds too: it goes on behind the call and leaves the addresses that were
live before it. -/
theorem ret_of_call {call ret : Word} {target : Target} (calls : decode call = some (.call target))
    (returns : decode ret = some .ret) (room : m.entries.length < 16)
    (keeps : ∀ c ∈ cs, c.resets = false)
    (above : ∀ ds, ds <+: cs →
      m.entries.length + 1 ≤ ((m.execute call).machine.after ds).entries.length)
    (level : ((m.execute call).machine.after cs).entries.length = m.entries.length + 1) :
    (m.execute call).answer = .ok call ∧
      (((m.execute call).machine.after cs).execute ret).answer = .ok ret ∧
      (((m.execute call).machine.after cs).execute ret).machine.state.pc.toNat =
        (m.state.pc.toNat + 2) % 65536 ∧
      (((m.execute call).machine.after cs).execute ret).machine.entries = m.entries := by
  obtain ⟨answer, start⟩ := execute_call calls room
  have kept := take_entries_after keeps above
  rw [List.take_of_length_le (Nat.le_of_eq level), start, List.take_of_length_le (by simp)] at kept
  obtain ⟨answer', pc, rest⟩ := execute_ret returns kept
  refine ⟨answer, answer', ?_, rest⟩
  have behind : Word.ofInt (m.state.pc.toNat + 2) = BitVec.ofNat 16 (m.state.pc.toNat + 2) :=
    BitVec.ofInt_natCast 16 (m.state.pc.toNat + 2)
  rw [pc, behind, BitVec.toNat_ofNat]

/-- A call with another one inside it, a jump of the host and a word that is refused. -/
def callSession : List Command :=
  [.execute 0x2456, .setPc 0x300, .execute 0xFFFF, .execute 0x00EE, .keyDown 3]

/-- The outer return goes back behind the outer call. -/
theorem ret_of_callSession :
    ((((standard 0x200).execute 0x2345).machine.after callSession).execute 0x00EE).machine.state.pc =
      0x202 := by
  have above : ∀ ds ∈ callSession.inits,
      1 ≤ (((standard 0x200).execute 0x2345).machine.after ds).entries.length := by
    decide +kernel
  have returned := @ret_of_call (standard 0x200) callSession 0x2345 0x00EE 0x345 rfl rfl (by decide)
    (by decide) (fun ds hds ↦ above ds ((List.mem_inits ds callSession).2 hds)) (by decide +kernel)
  exact BitVec.eq_of_toNat_eq returned.2.2.1

end Machine

end Chip8
