import Chip8.Proofs.Edit
import Chip8.Proofs.Frame
import Chip8.Proofs.Step
import Mathlib.Data.List.Count

/-!
# What observers are told

Every operation of a machine hands its observers some events, one after the other
(`Tracer.report`). Who else is registered, and what an observer did with earlier events, does not
matter to an observer that stays registered: it holds what it held before, and then just these
events (`Tracer.Keeps.toList_held_report`). So the events of a session can be read off either end of
it (`Machine.told`).

Two things are said once here, for all that is proved about events.

* Which events an operation reports, as an equation for the tracer after it (`Machine.tracer_apply`,
  `Machine.tracer_announce`, `Machine.tracer_tick`). Resetting, loading and editing report nothing.
* What an instruction reports (`State.Reports`): nothing, or a call or a return together with the
  entries of the stack, or a draw, or a wait together with the mode. The lines of the log go along.
-/

namespace Chip8

/-! ### Counting events -/

namespace Event

/-- How many events of a kind there are. -/
def count (k : Kind) (es : List Event) : Int := (es.countP fun e ↦ e.kind = k : Nat)

@[simp] theorem count_nil (k : Kind) : count k [] = 0 := rfl

@[simp] theorem count_cons (k : Kind) (e : Event) (es : List Event) :
    count k (e :: es) = count k es + if e.kind = k then 1 else 0 := by
  rw [count, List.countP_cons, count]
  by_cases same : e.kind = k
  · simp [same]
  · simp [same]

@[simp] theorem count_append (k : Kind) (es fs : List Event) :
    count k (es ++ fs) = count k es + count k fs := by
  rw [count, List.countP_append]
  push_cast
  rfl

/-- Events of other kinds do not count. -/
theorem count_eq_zero {k : Kind} {es : List Event} (h : ∀ e ∈ es, e.kind ≠ k) : count k es = 0 := by
  have none : es.countP (fun e ↦ e.kind = k) = 0 := by
    rw [List.countP_eq_zero]
    intro e he
    simpa using h e he
  rw [count, none]
  rfl

end Event

/-! ### An observer that stays -/

namespace Tracer

variable {ε : Type} {t : Tracer ε} {o : Observer} {es : List ε}

theorem report_append (t : Tracer ε) (es fs : List ε) :
    t.report (es ++ fs) = (t.report es).report fs :=
  List.foldl_append

/-- What an observer holds now and did not hold earlier. -/
def since (o : Observer) (t u : Tracer ε) : List ε := (u.held o).toList.drop (t.held o).size

/-- An observer is registered, once, and does not unregister itself. -/
structure Keeps (t : Tracer ε) (o : Observer) : Prop where
  stays : o.once = false
  count : t.registered.count o = 1

/-- Of an event that is handed to one observer only that observer gets to know. -/
theorem toList_held_deliver (e : ε) (t : Tracer ε) (o p : Observer) :
    ((deliver e t p).held o).toList = (t.held o).toList ++ if p = o then [e] else [] := by
  -- An observer that takes itself out keeps what it holds.
  have records : (deliver e t p).records = update p (·.push e) t.records := by
    rw [deliver]
    split
    · rfl
    · rfl
  rw [held, held, records]
  by_cases same : p = o
  · subst same
    rw [find_update_self, if_pos rfl, Array.toList_push]
  · have other : o ≠ p := fun h ↦ same h.symm
    rw [find_update_of_ne other, if_neg same, List.append_nil]

/-- Whoever gets an event, an observer that does not unregister itself is registered as often as
before. -/
theorem count_registered_deliver (stays : o.once = false) (e : ε) (t : Tracer ε) (p : Observer) :
    (deliver e t p).registered.count o = t.registered.count o := by
  rw [deliver]
  split
  · next leaves =>
    have other : o ≠ p := by
      rintro rfl
      rw [stays] at leaves
      cases leaves
    exact List.count_erase_of_ne other
  · rfl

/-- An event that is handed to several observers comes to an observer as often as it is among
them. -/
theorem toList_held_foldl_deliver (e : ε) (t : Tracer ε) (o : Observer) (ps : List Observer) :
    ((ps.foldl (deliver e) t).held o).toList =
      (t.held o).toList ++ List.replicate (ps.count o) e := by
  induction ps generalizing t with
  | nil => rw [List.count_nil, List.replicate_zero, List.append_nil, List.foldl_nil]
  | cons p ps ih =>
    rw [List.foldl_cons, ih, toList_held_deliver, List.append_assoc, List.count_cons]
    by_cases same : p = o
    · simp only [same, if_pos, beq_self_eq_true, List.singleton_append, List.replicate_succ]
    · simp only [same, if_false, beq_iff_eq, List.nil_append, Nat.add_zero]

theorem count_registered_foldl_deliver (stays : o.once = false) (e : ε) (t : Tracer ε)
    (ps : List Observer) :
    (ps.foldl (deliver e) t).registered.count o = t.registered.count o := by
  induction ps generalizing t with
  | nil => rfl
  | cons p ps ih => rw [List.foldl_cons, ih, count_registered_deliver stays]

namespace Keeps

theorem emit (h : t.Keeps o) (e : ε) : (t.emit e).Keeps o where
  stays := h.stays
  count := (count_registered_foldl_deliver h.stays e t t.registered).trans h.count

theorem toList_held_emit (h : t.Keeps o) (e : ε) :
    ((t.emit e).held o).toList = (t.held o).toList ++ [e] := by
  rw [Tracer.emit, toList_held_foldl_deliver, h.count, List.replicate_one]

theorem report (h : t.Keeps o) (es : List ε) : (t.report es).Keeps o := by
  induction es generalizing t with
  | nil => exact h
  | cons e es ih => exact ih (h.emit e)

/-- **An observer that stays holds all that was reported, in order.** -/
theorem toList_held_report (h : t.Keeps o) (es : List ε) :
    ((t.report es).held o).toList = (t.held o).toList ++ es := by
  induction es generalizing t with
  | nil => rw [List.append_nil, Tracer.report, List.foldl_nil]
  | cons e es ih =>
    have later := ih (h.emit e)
    rw [h.toList_held_emit, List.append_assoc] at later
    exact later

/-- So what it did not hold earlier is what was reported since. -/
theorem since_report (h : t.Keeps o) (es : List ε) : since o t (t.report es) = es := by
  rw [since, h.toList_held_report, ← Array.length_toList, List.drop_left]

end Keeps

end Tracer

/-! ### What operations report -/

namespace Machine

variable {m : Machine} {c : Command}

@[simp] theorem tracer_emit (m : Machine) (e : Event) :
    (m.emit e).tracer = m.tracer.report [e] := rfl

@[simp] theorem tracer_apply (m : Machine) (e : Effect) :
    (m.apply e).tracer = m.tracer.report e.events := by
  rw [apply, foldl_emit]
  rfl

@[simp] theorem tracer_announce (m : Machine) (w : Word) (i : Instr) :
    (m.announce w i).tracer =
      m.tracer.report [.instruction m.state.pc.toNat w.toNat i.text] := rfl

/-- What is reported about ticks that were taken: nothing if there were none. -/
def tickEvents (ticks : Int) (timers : Timers) : List Event :=
  if ticks = 0 then [] else [.timerTick ticks timers.delay timers.sound]

@[simp] theorem tracer_tick (m : Machine) (ticks : Int) (timers : Timers) :
    (m.tick ticks timers).tracer = m.tracer.report (tickEvents ticks timers) := by
  rw [tick_eq, tickEvents]
  split
  · rfl
  · rfl

@[simp] theorem tracer_reset (m : Machine) (now : Int) :
    (m.reset now).machine.tracer = m.tracer := by
  rw [reset_eq]

@[simp] theorem tracer_load (m : Machine) (image : List Byte) :
    (m.load image).machine.tracer = m.tracer := by
  rcases loaded : m.state.memory.load image m.setup.origin with f | memory
  · rw [load_of_error loaded]
  · rw [load_of_ok loaded]
    rfl

@[simp] theorem tracer_loadValues (m : Machine) (values : List Int) :
    (m.loadValues values).machine.tracer = m.tracer := by
  rcases m.loadValues_cases values with ⟨v, eq⟩ | ⟨image, eq⟩
  · rw [eq]
  · rw [eq]
    exact m.tracer_load image

/-- A command that edits reports nothing and writes nothing to the log. -/
theorem silent_of_edit {f : State → Except Fault State} (edit : c.edit? = some f) (m : Machine) :
    (m.perform c).machine.tracer = m.tracer ∧ (m.perform c).log = [] := by
  rcases edited : f m.state with e | t
  · rw [perform_of_edit_error edit edited]
    exact ⟨rfl, rfl⟩
  · rw [perform_of_edit_ok edit edited]
    exact ⟨rfl, rfl⟩

/-! ### The events of a session -/

/-- What an observer is told in a session. -/
def told (o : Observer) (m : Machine) (cs : List Command) : List Event :=
  Tracer.since o m.tracer (m.after cs).tracer

/-- What was reported in a session is what an observer that stays was told. -/
theorem told_eq {o : Observer} {cs : List Command} {es : List Event} (keeps : m.tracer.Keeps o)
    (reported : (m.after cs).tracer = m.tracer.report es) : m.told o cs = es := by
  rw [told, reported, keeps.since_report]

end Machine

/-- An observer to try things with. -/
def Observer.recorder : Observer := ⟨[], false⟩

/-! ### What an instruction reports -/

namespace State

variable {s : State} {i : Instr} {e : Effect}

/-- What an instruction can report, and what that says about the state after it. -/
inductive Reports (s : State) (e : Effect) : Prop
  | nothing (events : e.events = []) (log : e.log = []) (mode : e.state.mode = s.mode)
      (stack : e.state.stack = s.stack)
  | call {target depth : Int} (events : e.events = [.call s.pc.toNat target depth])
      (log : e.log = []) (mode : e.state.mode = s.mode)
      (entries : e.state.stack.entries = s.stack.entries ++ [Word.ofInt (s.pc.toNat + 2)])
      (depth_eq : depth = e.state.stack.entries.length)
  | ret {target : Word} {depth : Int} (events : e.events = [.ret s.pc.toNat target.toNat depth])
      (log : e.log = []) (mode : e.state.mode = s.mode)
      (entries : s.stack.entries = e.state.stack.entries ++ [target])
      (depth_eq : depth = e.state.stack.entries.length)
  | draw {x y rows : Int} {erased : Bool} (events : e.events = [.draw s.pc.toNat x y rows erased])
      (log : e.log = []) (mode : e.state.mode = s.mode) (stack : e.state.stack = s.stack)
  | keyWait {x : RegIndex} (events : e.events = [.keyWait s.pc.toNat x.val])
      (log : e.log = [.keyWait x.val s.pc.toNat])
      (state : e.state = { s with mode := .waitingForKey, waitRegister := some x })

/-- **What an instruction reports.** -/
theorem reports_of_exec (h : s.exec i = .ok e) : s.Reports e := by
  have frame := frame_of_exec h
  cases i with
  | ret =>
    obtain ⟨⟨target, stack⟩, popped, h⟩ := Fault.exists_of_bind_eq_ok h
    cases h
    exact .ret rfl rfl rfl (CallStack.entries_of_pop popped) (by rw [CallStack.length_entries]; rfl)
  | call target =>
    obtain ⟨stack, pushed, h⟩ := Fault.exists_of_bind_eq_ok h
    cases h
    exact .call rfl rfl rfl (CallStack.entries_of_push pushed)
      (by rw [CallStack.length_entries]; rfl)
  | draw x y rows =>
    obtain ⟨sprite, -, h⟩ := Fault.exists_of_bind_eq_ok h
    cases h
    exact .draw rfl rfl rfl rfl
  | awaitKey x =>
    rcases key : s.keypad.highest? with _ | k
    · have waits := h
      rw [exec, awaitKey, key] at waits
      cases waits
      exact .keyWait rfl rfl rfl
    · have goes := h
      rw [exec, awaitKey, key] at goes
      cases goes
      exact .nothing rfl rfl rfl rfl
  | skipKey down x | digits x | store x | fetch x =>
    have mode := frame.mode rfl
    have stack := frame.stack rfl
    obtain ⟨part, -, h⟩ := Fault.exists_of_bind_eq_ok h
    cases h
    exact .nothing rfl rfl mode stack
  | _ =>
    have mode := frame.mode rfl
    have stack := frame.stack rfl
    cases h
    exact .nothing rfl rfl mode stack

end State

end Chip8
