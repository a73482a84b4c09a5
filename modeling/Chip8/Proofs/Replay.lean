import Chip8.Proofs.CallReturn
import Chip8.Proofs.Faults
import Chip8.Proofs.Recording
import Chip8.Snapshot.Basic

/-!
# The trace replays the call stack

An observer is told of every call and of every return, with the depth of the stack after it, and it
is told nothing else about the stack. That is enough to know the live return addresses at any time:
whoever starts from an empty list, adds the address behind a call at its end and takes the last one
at a return, has the live addresses of the machine (`Machine.replays_told`). On the way every event
is right about that list: a return takes the address that it tells of, and the depth is the number
of addresses after the event (`Event.Replays`).

The list and the stack know nothing of each other, so what has to be seen is that they move
together. An instruction reports a call exactly if it pushes and a return exactly if it pops
(`State.replays_of_reports`); a call or a return that is refused is announced like any instruction,
and neither pops nor pushes. All other operations leave both alone.
-/

namespace Chip8

namespace CallStack

variable {depth : Int}

/-- The live return addresses as numbers, oldest first. -/
def live (s : CallStack depth) : List Int := s.entries.map fun w ↦ (w.toNat : Int)

@[simp] theorem length_live (s : CallStack depth) : s.live.length = s.pointer := by
  rw [live, List.length_map, length_entries]

end CallStack

/-! ### Replaying events -/

namespace Event

/-- The list of live addresses after an event, if one has kept it from the events before. -/
def replay (live : List Int) : Event → List Int
  | call pc _ _ => live ++ [(pc + 2) % 65536]
  | ret .. => live.dropLast
  | _ => live

/-- Whether an event is right about that list: a return tells of the last address of the list before
it, and a call or a return tells of the length of the list after it. -/
def Agrees (live : List Int) (e : Event) : Prop :=
  match e with
  | call _ _ depth => depth = (e.replay live).length
  | ret _ target depth => live.getLast? = some target ∧ depth = (e.replay live).length
  | _ => True

/-- Replaying events leads from one list to another, every event is right on the way, and there are
never more than sixteen addresses. -/
inductive Replays : List Int → List Event → List Int → Prop
  | nil (live : List Int) : Replays live [] live
  | cons {live live' : List Int} {e : Event} {es : List Event} (agrees : e.Agrees live)
      (bounded : (e.replay live).length ≤ 16) (rest : Replays (e.replay live) es live') :
      Replays live (e :: es) live'

namespace Replays

variable {live live' live'' : List Int} {e : Event} {es fs : List Event}

theorem append (h : Replays live es live') (h' : Replays live' fs live'') :
    Replays live (es ++ fs) live'' := by
  induction h with
  | nil live => exact h'
  | cons agrees bounded rest ih => exact .cons agrees bounded (ih h')

theorem single (agrees : e.Agrees live) (bounded : (e.replay live).length ≤ 16)
    (next : e.replay live = live') : Replays live [e] live' := by
  refine .cons agrees bounded ?_
  rw [next]
  exact .nil live'

/-- An event that is no call and no return leaves the list alone. -/
theorem of_other (calls : e.kind ≠ .call) (returns : e.kind ≠ .ret) (bounded : live.length ≤ 16) :
    Replays live [e] live := by
  have same : e.replay live = live := by
    cases e with
    | call pc target depth => exact absurd rfl calls
    | ret pc target depth => exact absurd rfl returns
    | _ => rfl
  have agrees : e.Agrees live := by
    cases e with
    | call pc target depth => exact absurd rfl calls
    | ret pc target depth => exact absurd rfl returns
    | _ => trivial
  refine single agrees ?_ same
  rw [same]
  exact bounded

end Replays

end Event

open Event (Replays)

/-- There are never more than sixteen live addresses. -/
theorem State.length_live_le (s : State) : s.stack.live.length ≤ 16 := by
  rw [CallStack.length_live]
  exact s.stack.pointer_le

/-- **What an instruction reports replays what it does to the stack.** -/
theorem State.replays_of_reports {s : State} {e : Effect} (h : s.Reports e) :
    Replays s.stack.live e.events e.state.stack.live := by
  have before := s.length_live_le
  have after := e.state.length_live_le
  rcases h with ⟨events, -, -, stack⟩ | ⟨events, -, -, entries, depth⟩ |
    @⟨target, _, events, -, -, entries, depth⟩ | ⟨events, -, -, stack⟩ | ⟨events, -, state⟩
  · rw [events, stack]
    exact .nil _
  · have live : s.stack.live ++ [((s.pc.toNat : Int) + 2) % 65536] = e.state.stack.live := by
      rw [CallStack.live, CallStack.live, entries, List.map_append, List.map_singleton,
        Word.toNat_ofInt]
    rw [events]
    refine .single ?_ ?_ live
    · rw [Event.Agrees, Event.replay, live, depth, CallStack.live, List.length_map]
    · rw [Event.replay, live]
      exact after
  · -- What is told to be taken is what the stack before ends with.
    have live : s.stack.live = e.state.stack.live ++ [(target.toNat : Int)] := by
      rw [CallStack.live, CallStack.live, entries, List.map_append, List.map_singleton]
    have rest : s.stack.live.dropLast = e.state.stack.live := by
      rw [live, List.dropLast_concat]
    rw [events]
    refine .single ⟨?_, ?_⟩ ?_ rest
    · rw [live, List.getLast?_concat]
    · rw [Event.replay, rest, depth, CallStack.live, List.length_map]
    · rw [Event.replay, rest]
      exact after
  · rw [events, stack]
    exact .of_other nofun nofun before
  · rw [events, state]
    exact .of_other nofun nofun before

namespace Machine

variable {m n l : Machine} {es fs : List Event} {c : Command} {cs : List Command}

/-- A machine goes on to another one, and what it reports on the way replays its stack. -/
structure Replayed (m n : Machine) (es : List Event) : Prop where
  tracer : n.tracer = m.tracer.report es
  stack : Replays m.state.stack.live es n.state.stack.live

namespace Replayed

/-- Nothing is reported, and the stack stays. -/
theorem of_silent (tracer : n.tracer = m.tracer) (stack : n.state.stack = m.state.stack) :
    m.Replayed n [] where
  tracer := tracer
  stack := by
    rw [stack]
    exact .nil _

/-- One event is reported that is no call and no return, and the stack stays. -/
theorem of_other {e : Event} (calls : e.kind ≠ .call) (returns : e.kind ≠ .ret)
    (tracer : n.tracer = m.tracer.report [e]) (stack : n.state.stack = m.state.stack) :
    m.Replayed n [e] where
  tracer := tracer
  stack := by
    rw [stack]
    exact .of_other calls returns m.state.length_live_le

theorem trans (h : m.Replayed n es) (h' : n.Replayed l fs) : m.Replayed l (es ++ fs) where
  tracer := by rw [h'.tracer, h.tracer, Tracer.report_append]
  stack := h.stack.append h'.stack

end Replayed

/-! ### One command -/

theorem replayed_announce (m : Machine) (w : Word) (i : Instr) :
    m.Replayed (m.announce w i) [.instruction m.state.pc.toNat w.toNat i.text] :=
  .of_other nofun nofun (m.tracer_announce w i) rfl

theorem exists_replayed_execute (m : Machine) (w : Word) :
    ∃ es, m.Replayed (m.execute w).machine es := by
  rcases m.execute_cases w with ⟨-, eq⟩ | ⟨i, f, -, -, eq⟩ | ⟨i, e, -, exec, eq⟩
  · rw [eq]
    exact ⟨_, .of_silent rfl rfl⟩
  · -- The instruction is announced and refused: no call, no return, and the same stack.
    rw [eq]
    exact ⟨_, m.replayed_announce w i⟩
  · have reports := State.replays_of_reports (State.reports_of_exec exec)
    have completed : (m.announce w i).Replayed
        ((m.announce w i).apply { e with state := e.state.tally }) e.events := by
      refine ⟨tracer_apply _ _, ?_⟩
      rw [state_apply, State.stack_tally]
      exact reports
    rw [eq]
    exact ⟨_, (m.replayed_announce w i).trans completed⟩

theorem exists_replayed_executeNext (m : Machine) :
    ∃ es, m.Replayed m.executeNext.machine es := by
  rcases m.executeNext_cases with
    ⟨-, -, eq⟩ | ⟨x, key, -, -, -, eq⟩ | ⟨f, -, -, eq⟩ | ⟨w, -, -, eq⟩
  · rw [eq]
    exact ⟨_, .of_silent rfl rfl⟩
  · rw [eq]
    exact ⟨_, .of_other (by nofun) (by nofun) rfl rfl⟩
  · rw [eq]
    exact ⟨_, .of_silent rfl rfl⟩
  · rw [eq]
    exact m.exists_replayed_execute w

theorem exists_replayed_attempt (m : Machine) : ∃ es, m.Replayed m.attempt.machine es := by
  obtain ⟨es, next⟩ := m.exists_replayed_executeNext
  rcases answer : m.executeNext.answer with f | last
  · rw [attempt_of_error answer]
    exact ⟨_, next.trans (.of_other (by nofun) (by nofun) (tracer_emit _ _) rfl)⟩
  · rw [attempt_of_ok answer]
    exact ⟨es, next⟩

theorem replayed_tick (m : Machine) (ticks : Int) (timers : Timers) :
    m.Replayed (m.tick ticks timers) (tickEvents ticks timers) := by
  have tracer := m.tracer_tick ticks timers
  have stack : (m.tick ticks timers).state.stack = m.state.stack := by rw [state_tick]
  rw [tickEvents] at tracer ⊢
  by_cases none : ticks = 0
  · rw [if_pos none] at tracer ⊢
    exact .of_silent tracer stack
  · rw [if_neg none] at tracer ⊢
    exact .of_other (by simp [Event.kind]) (by simp [Event.kind]) tracer stack

theorem exists_replayed_step (m : Machine) (now : Int) :
    ∃ es, m.Replayed (m.step now).machine es := by
  obtain ⟨es, attempted⟩ := m.exists_replayed_attempt
  rw [step_eq_ticked]
  rcases answer : m.attempt.answer with f | last
  · rw [Outcome.ticked_of_error answer]
    exact ⟨es, attempted⟩
  · rcases sampled : m.attempt.machine.state.timers.sample now with e | ⟨ticks, timers⟩
    · rw [Outcome.ticked_of_timer_error answer sampled]
      exact ⟨es, attempted⟩
    · rw [Outcome.ticked_of_ok answer sampled]
      exact ⟨_, attempted.trans (replayed_tick _ ticks timers)⟩

/-- **What a command reports replays what it does to the stack**, unless it is a reset. -/
theorem exists_replayed_perform (m : Machine) (keeps : c.resets = false) :
    ∃ es, m.Replayed (m.perform c).machine es := by
  rcases edit : c.edit? with _ | f
  · cases c with
    | load values =>
      obtain ⟨memory, loaded⟩ := m.exists_memory_loadValues values
      refine ⟨_, .of_silent (m.tracer_loadValues values) ?_⟩
      show (m.loadValues values).machine.state.stack = m.state.stack
      rw [loaded]
    | step now => exact m.exists_replayed_step now
    | executeNext => exact m.exists_replayed_executeNext
    | execute word => exact m.exists_replayed_execute (Word.ofInt word)
    | advanceTimers elapsed =>
      show ∃ es, m.Replayed (m.advanceTimers elapsed).machine es
      rw [advanceTimers]
      rcases m.state.timers.advance elapsed with e | ⟨ticks, timers⟩
      · exact ⟨_, .of_silent rfl rfl⟩
      · exact ⟨_, m.replayed_tick ticks timers⟩
    | reset now => cases keeps
    | loadProgram values now => cases keeps
    | _ => cases edit
  · have silent := silent_of_edit edit m
    refine ⟨_, .of_silent silent.1 ?_⟩
    rcases frame_perform_of_edit edit m with same | frame
    · rw [same]
    · exact frame.stack

/-! ### Sessions -/

/-- **What a session reports replays what it does to the stack.** -/
theorem exists_replayed_after (m : Machine) (keeps : ∀ c ∈ cs, c.resets = false) :
    ∃ es, m.Replayed (m.after cs) es := by
  induction cs generalizing m with
  | nil => exact ⟨[], .of_silent rfl rfl⟩
  | cons c cs ih =>
    obtain ⟨es, first⟩ := m.exists_replayed_perform (keeps c List.mem_cons_self)
    obtain ⟨fs, rest⟩ := ih (m.perform c).machine fun d hd ↦ keeps d (List.mem_cons_of_mem c hd)
    exact ⟨es ++ fs, first.trans rest⟩

/-- **The trace replays the call stack.** After a reset, let an observer stay registered through any
session without a further reset. Replaying what it was told, from an empty list, ends with the live
return addresses of the machine, and on the way every call and every return is right: no return
meets an empty list, it tells of the address that it takes, and the depth is the length of the list.
The session may end anywhere, so this holds after each of its commands. -/
theorem replays_told {o : Observer} (stays : m.tracer.Keeps o) (now : Int)
    (keeps : ∀ c ∈ cs, c.resets = false) :
    Replays [] ((m.reset now).machine.told o cs)
      (Snapshot.ofState ((m.reset now).machine.after cs).state).stack := by
  have stays' : (m.reset now).machine.tracer.Keeps o := by
    rw [tracer_reset]
    exact stays
  have empty : (m.reset now).machine.state.stack.live = [] := by
    have blank : (m.reset now).machine.state.stack = .blank _ := by rw [reset_eq]; rfl
    rw [blank, CallStack.live, CallStack.entries_blank, List.map_nil]
  obtain ⟨es, replayed⟩ := (m.reset now).machine.exists_replayed_after keeps
  have stack := replayed.stack
  rw [told_eq stays' replayed.tracer]
  rw [empty] at stack
  exact stack

/-- A call from the last address, a word that is no instruction, a return, and a return that is
refused. -/
def traceSession : List Command :=
  [.setPc 0xFFFF, .execute 0x2300, .step 20, .execute 0x00EE, .execute 0x00EE]

/-- Of that session an observer is told one call and one return. -/
theorem replays_traceSession :
    (((standard 0x200).register .recorder).reset 5).machine.told .recorder traceSession =
      [.instruction 0xFFFF 0x2300 "CALL 0x300", .call 0xFFFF 0x300 1,
        .fault 0x300 (.unknownInstruction 0 (some 0x300)), .instruction 0x300 0x00EE "RET",
        .ret 0x300 1 0, .instruction 1 0x00EE "RET"] ∧
    Replays []
      ((((standard 0x200).register .recorder).reset 5).machine.told .recorder traceSession)
      (Snapshot.ofState
        ((((standard 0x200).register .recorder).reset 5).machine.after traceSession).state).stack :=
  ⟨by decide +kernel, replays_told ⟨rfl, by decide +kernel⟩ 5 (by decide)⟩

end Machine

end Chip8
