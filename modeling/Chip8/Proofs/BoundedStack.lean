import Chip8.Proofs.CallReturn
import Chip8.Proofs.Faults
import Chip8.Proofs.History

/-!
# The call stack as a bounded list

A call stack of any depth, also one of zero or below, is asked to push addresses, to take or to show
the latest one and to reset, in any order. Beside it stands a list of words that is never longer
than the depth (`BoundedList.perform`). This module says that a host cannot tell the two apart, and
what it finds in the slots, which a list does not have.

* A request to the stack is answered or refused as by the list of its live entries, and leaves a
  stack whose live entries are what the list has become (`CallStack.perform_refines`).
* A slot keeps an address after it was popped. It holds what was pushed last by a push that found as
  many entries as there are slots below it (`CallStack.Request.tells`). How many entries a request
  finds is told by the list (`BoundedList.placed`).

The main result is `CallStack.bounded_list`. The steps are `CallStack.perform_refines` for the
entries and `CallStack.held_step` for the slots.
-/

namespace Chip8

namespace CallStack

/-- A request to a call stack. -/
inductive Request
  | push (address pc : Int)
  | pop (pc : Int)
  | peek
  | reset
  deriving DecidableEq, Repr

/-- What a request tells of a slot if it finds some number of live entries. -/
def Request.tells (k : Nat) : Nat × Request → Option Word
  | (found, push address _) => if found = k then some (Word.ofInt address) else none
  | (_, reset) => some 0
  | _ => none

end CallStack

namespace BoundedList

open CallStack (Request)

/-- What a list of at most `depth` words answers to a request and what becomes of it, or why the
request is refused. -/
def perform (depth : Int) (ws : List Word) : Request → Except Fault (Option Word × List Word)
  | .push address pc =>
    if depth ≤ ws.length then .error (.stackOverflow pc depth)
    else .ok (none, ws ++ [Word.ofInt address])
  | .pop pc =>
    match ws.getLast? with
    | none => .error (.stackUnderflow pc)
    | some w => .ok (some w, ws.dropLast)
  | .peek =>
    match ws.getLast? with
    | none => .error (.outOfRange .stack (-1) (depth - 1))
    | some w => .ok (some w, ws)
  | .reset => .ok (none, [])

/-- What a request makes of the list. One that is refused makes nothing of it. -/
def next (depth : Int) (ws : List Word) (r : Request) : List Word :=
  match perform depth ws r with
  | .ok (_, vs) => vs
  | .error _ => ws

/-- The list after some requests. -/
def after (depth : Int) (ws : List Word) (rs : List Request) : List Word :=
  rs.foldl (next depth) ws

theorem after_concat (depth : Int) (ws : List Word) (rs : List Request) (r : Request) :
    after depth ws (rs ++ [r]) = next depth (after depth ws rs) r :=
  List.foldl_concat ..

/-- Some requests, each with the number of entries that it finds. -/
def placed (depth : Int) : List Word → List Request → List (Nat × Request)
  | _, [] => []
  | ws, r :: rs => (ws.length, r) :: placed depth (next depth ws r) rs

theorem placed_concat (depth : Int) (ws : List Word) (rs : List Request) (r : Request) :
    placed depth ws (rs ++ [r]) = placed depth ws rs ++ [((after depth ws rs).length, r)] := by
  induction rs generalizing ws with
  | nil => rfl
  | cons first rs ih =>
    rw [List.cons_append, placed, ih]
    rfl

end BoundedList

namespace CallStack

variable {depth : Int} {s t : CallStack depth} {f : Fault}

/-- Shows the latest address. -/
def showing : Access Fault (CallStack depth) Word := do Access.check (← Access.part).peek

/-- What is done for a request. -/
def request : Request → Access Fault (CallStack depth) (Option Word)
  | .push address pc => do
    pushing address pc
    return none
  | .pop pc => do return some (← popping pc)
  | .peek => do return some (← showing)
  | .reset => do
    Access.change fun _ ↦ blank depth
    return none

/-- What a request answers and leaves, or why it is refused. -/
def perform (s : CallStack depth) (r : Request) : Except Fault (Option Word × CallStack depth) :=
  Access.outcome ((request r).run s)

/-- The stack after some requests. -/
def after (s : CallStack depth) (rs : List Request) : CallStack depth := History.run request s rs

/-! ### What is refused -/

/-- To show the latest address changes nothing. -/
theorem run_showing (s : CallStack depth) :
    showing.run s = Access.ending s (s.peek.map fun w ↦ (w, s)) := by
  simp only [showing, EStateM.run_bind, Access.run_part]
  cases s.peek with
  | ok w => rfl
  | error f => rfl

theorem clean_showing : (showing : Access Fault (CallStack depth) Word).Clean :=
  .of_ending run_showing

theorem clean_request (r : Request) :
    (request r : Access Fault (CallStack depth) (Option Word)).Clean := by
  cases r with
  | push address pc => exact (clean_pushing address pc).map fun _ ↦ none
  | pop pc => exact (clean_popping pc).map some
  | peek => exact clean_showing.map some
  | reset => exact (Access.clean_change _).map fun _ ↦ none

theorem step_of_perform_ok {r : Request} {answer : Option Word}
    (done : s.perform r = .ok (answer, t)) : History.step request s r = t :=
  History.step_of_performed (congrArg (Except.map Prod.snd) done)

theorem step_of_perform_error {r : Request} (refused : s.perform r = .error f) :
    History.step request s r = s :=
  History.step_of_refused (clean_request r) (congrArg (Except.map Prod.snd) refused)

theorem perform_push (s : CallStack depth) (address pc : Int) :
    s.perform (.push address pc) = (s.push address pc).map fun t ↦ (none, t) := by
  rw [perform, request, EStateM.run_bind, run_pushing]
  cases s.push address pc with
  | ok t => rfl
  | error f => rfl

theorem perform_pop (s : CallStack depth) (pc : Int) :
    s.perform (.pop pc) = (s.pop pc).map (Prod.map some id) := by
  rw [perform, request, EStateM.run_bind, run_popping]
  cases s.pop pc with
  | ok r => rfl
  | error f => rfl

theorem perform_peek (s : CallStack depth) :
    s.perform .peek = s.peek.map fun w ↦ (some w, s) := by
  rw [perform, request, EStateM.run_bind, run_showing]
  cases s.peek with
  | ok w => rfl
  | error f => rfl

/-! ### The latest entry -/

/-- The latest entry is shown, whatever lies in the slots above it. -/
theorem peek_of_entries {ws : List Word} {w : Word} (latest : s.entries = ws ++ [w]) :
    s.peek = .ok w := by
  obtain ⟨t, popped, -⟩ := exists_pop_eq_ok latest 0
  obtain ⟨slots, pointer, le⟩ := s
  cases pointer with
  | zero => cases popped
  | succ p =>
    cases popped
    rfl

theorem peek_of_empty (empty : s.entries = []) :
    s.peek = .error (.outOfRange .stack (-1) (depth - 1)) := by
  have none : s.pointer = 0 := by rw [← s.length_entries, empty, List.length_nil]
  obtain ⟨slots, pointer, le⟩ := s
  cases none
  rfl

/-! ### One request -/

/-- **A request is answered as by the list of the live entries**, and they become what the list
becomes. -/
theorem perform_refines (s : CallStack depth) (r : Request) :
    (s.perform r).map (Prod.map id entries) = BoundedList.perform depth s.entries r := by
  cases r with
  | push address pc =>
    rw [perform_push, BoundedList.perform]
    by_cases full : depth ≤ s.entries.length
    · have le := s.pointer_le
      rw [length_entries] at full
      have refused : s.push address pc = .error (.stackOverflow pc depth) :=
        push_eq_error_iff_length.2 ⟨by rw [length_entries]; omega, rfl⟩
      rw [refused, length_entries, if_pos full]
      rfl
    · obtain ⟨t, pushed, entries⟩ := exists_push_eq_ok (s := s) (by omega) address pc
      rw [pushed, if_neg full, ← entries]
      rfl
  | pop pc =>
    rw [perform_pop, BoundedList.perform]
    rcases List.eq_nil_or_concat' s.entries with empty | ⟨ws, w, latest⟩
    · rw [pop_eq_error_iff.2 ⟨empty, rfl⟩, empty]
      rfl
    · obtain ⟨t, popped, entries⟩ := exists_pop_eq_ok latest pc
      rw [popped, latest, List.getLast?_concat, List.dropLast_concat, ← entries]
      rfl
  | peek =>
    rw [perform_peek, BoundedList.perform]
    rcases List.eq_nil_or_concat' s.entries with empty | ⟨ws, w, latest⟩
    · rw [peek_of_empty empty, empty]
      rfl
    · rw [peek_of_entries latest, latest, List.getLast?_concat]
      show Except.ok (some w, s.entries) = _
      rw [latest]
  | reset =>
    show Except.ok (none, (blank depth).entries) = _
    rw [entries_blank]
    rfl

/-- The live entries after a request. -/
theorem entries_step (s : CallStack depth) (r : Request) :
    (History.step request s r).entries = BoundedList.next depth s.entries r := by
  rw [BoundedList.next, ← perform_refines]
  rcases performed : s.perform r with f | ⟨answer, t⟩
  · exact congrArg entries (step_of_perform_error performed)
  · exact congrArg entries (step_of_perform_ok performed)

/-- What a slot holds. -/
def held (s : CallStack depth) (k : Fin depth.toNat) : Word := s.slots[k]

theorem held_blank (k : Fin depth.toNat) : (blank depth).held k = 0 :=
  Vector.getElem_replicate k.isLt

/-- A pop leaves the slots as they are. -/
theorem held_of_pop {w : Word} {pc : Int} (popped : s.pop pc = .ok (w, t)) (k : Fin depth.toNat) :
    t.held k = s.held k := by
  obtain ⟨slots, pointer, le⟩ := s
  cases pointer with
  | zero => cases popped
  | succ p =>
    cases popped
    rfl

/-- A push writes to the slot above the live entries. -/
theorem held_of_push {address pc : Int} (pushed : s.push address pc = .ok t)
    (k : Fin depth.toNat) :
    t.held k = if s.entries.length = k then Word.ofInt address else s.held k := by
  by_cases room : s.pointer < depth.toNat
  · rw [push, dif_pos room] at pushed
    cases pushed
    show (s.slots.set s.pointer (Word.ofInt address) room)[k.val] = _
    rw [Vector.getElem_set, length_entries]
    rfl
  · rw [push, dif_neg room] at pushed
    cases pushed

/-- A push that is refused finds as many entries as there are slots. -/
theorem ne_of_push_eq_error {address pc : Int} (refused : s.push address pc = .error f)
    (k : Fin depth.toNat) : s.entries.length ≠ k := by
  have full := (push_eq_error_iff_length.1 refused).1
  have below := k.isLt
  omega

/-- **One request leaves in each slot what it tells of it**, and what it does not tell anything of
is as it was. -/
theorem held_step (s : CallStack depth) (k : Fin depth.toNat) (r : Request) :
    (History.step request s r).held k =
      (Request.tells k.val (s.entries.length, r)).getD (s.held k) := by
  cases r with
  | push address pc =>
    rw [Request.tells]
    rcases pushed : s.push address pc with f | t
    · have refused : s.perform (.push address pc) = .error f := by rw [perform_push, pushed]; rfl
      rw [if_neg (ne_of_push_eq_error pushed k), step_of_perform_error refused]
      rfl
    · have done : s.perform (.push address pc) = .ok (none, t) := by rw [perform_push, pushed]; rfl
      rw [step_of_perform_ok done]
      show t.held k = _
      rw [held_of_push pushed]
      split
      · rfl
      · rfl
  | pop pc =>
    rcases popped : s.pop pc with f | ⟨w, t⟩
    · have refused : s.perform (.pop pc) = .error f := by rw [perform_pop, popped]; rfl
      rw [step_of_perform_error refused]
      rfl
    · have done : s.perform (.pop pc) = .ok (some w, t) := by rw [perform_pop, popped]; rfl
      rw [step_of_perform_ok done]
      exact held_of_pop popped k
  | peek =>
    rcases latest : s.peek with f | w
    · have refused : s.perform .peek = .error f := by rw [perform_peek, latest]; rfl
      rw [step_of_perform_error refused]
      rfl
    · have done : s.perform .peek = .ok (some w, s) := by rw [perform_peek, latest]; rfl
      rw [step_of_perform_ok done]
      rfl
  | reset => exact held_blank k

/-! ### Any requests -/

/-- The live entries after some requests to a stack that was just made. -/
theorem entries_after (depth : Int) (rs : List Request) :
    ((blank depth).after rs).entries = BoundedList.after depth [] rs := by
  induction rs using List.reverseRecOn with
  | nil => exact entries_blank
  | append_singleton rs r ih =>
    rw [after, History.run_concat, entries_step, BoundedList.after_concat]
    exact congrArg (BoundedList.next depth · r) ih

/-- The slots after some requests to a stack that was just made. -/
theorem held_after (k : Fin depth.toNat) (rs : List Request) :
    ((blank depth).after rs).held k =
      (History.latest? (Request.tells k.val) (BoundedList.placed depth [] rs)).getD 0 := by
  induction rs using List.reverseRecOn with
  | nil => exact held_blank k
  | append_singleton rs r ih =>
    rw [after, History.run_concat, held_step, BoundedList.placed_concat, History.latest?_concat]
    show (Request.tells k.val (((blank depth).after rs).entries.length, r)).getD
      (((blank depth).after rs).held k) = _
    rw [entries_after, ih]
    rcases Request.tells k.val ((BoundedList.after depth [] rs).length, r) with - | w
    · rfl
    · rfl

/-- **The call stack is a bounded list.** Take a stack of any depth and any requests to it, and the
list after the same requests. The live entries are the list, and the pointer is its length. A
further request is answered or refused as by the list, and one that is refused changes nothing. A
slot holds the address that was pushed last where as many entries were found as there are slots
below it, or zero if none was since the last reset; and there are no other slots than the depth
counts. -/
theorem bounded_list (depth : Int) (rs : List Request) :
    ((blank depth).after rs).entries = BoundedList.after depth [] rs ∧
    ((blank depth).after rs).pointer = (BoundedList.after depth [] rs).length ∧
    (∀ r, (((blank depth).after rs).perform r).map (Prod.map id entries) =
      BoundedList.perform depth (BoundedList.after depth [] rs) r) ∧
    (∀ r f, ((blank depth).after rs).perform r = .error f →
      (blank depth).after (rs ++ [r]) = (blank depth).after rs) ∧
    (∀ k : Nat, k < depth → ((blank depth).after rs).slot k =
      .ok ((History.latest? (Request.tells k) (BoundedList.placed depth [] rs)).getD 0)) ∧
    ∀ k : Int, ¬(0 ≤ k ∧ k < depth) →
      ((blank depth).after rs).slot k = .error (.outOfRange .stack k (depth - 1)) := by
  refine ⟨entries_after depth rs, ?pointer, ?request, fun r f ↦ ?refused, ?slot, ?other⟩
  case pointer => rw [← entries_after, length_entries]
  case request =>
    intro r
    rw [perform_refines, entries_after]
  case refused =>
    intro refused
    exact History.run_concat_of_refused (clean_request r) (congrArg (Except.map Prod.snd) refused)
  case slot =>
    intro k below
    have slot : ((blank depth).after rs).slot k =
        .ok (((blank depth).after rs).held ⟨k, by omega⟩) :=
      dif_pos ⟨Int.natCast_nonneg k, below⟩
    rw [slot, held_after]
  case other => exact fun k outside ↦ dif_neg outside

/-- Requests to a stack of two slots: one push and one pop too many. -/
def twoSlotRequests : List Request :=
  [.push 0x12345 0x200, .push (-1) 0x202, .push 9 0x204, .peek, .pop 0x206, .pop 0x208, .pop 0x20A]

/-- Both slots still hold their addresses when the stack is empty again. -/
theorem bounded_list_of_twoSlotRequests :
    ((blank 2).after twoSlotRequests).entries = [] ∧
    (blank 2).after (twoSlotRequests ++ [.pop 0x20C]) = (blank 2).after twoSlotRequests ∧
    ((blank 2).after twoSlotRequests).slot 0 = .ok 0x2345 ∧
    ((blank 2).after twoSlotRequests).slot 1 = .ok 0xFFFF ∧
    ((blank 2).after twoSlotRequests).slot 2 = .error (.outOfRange .stack 2 1) ∧
    (((blank (-1)).after twoSlotRequests).perform (.push 1 2)).map (Prod.map id entries) =
      .error (.stackOverflow 2 (-1)) := by
  obtain ⟨entries, -, -, kept, slot, other⟩ := bounded_list 2 twoSlotRequests
  obtain ⟨-, -, request, -⟩ := bounded_list (-1) twoSlotRequests
  refine ⟨entries, kept _ (.stackUnderflow 0x20C) rfl, ?_, ?_, other 2 (by decide), request _⟩
  · exact (slot 0 (by decide)).trans (congrArg Except.ok (by decide))
  · exact (slot 1 (by decide)).trans (congrArg Except.ok (by decide))

end CallStack

end Chip8
