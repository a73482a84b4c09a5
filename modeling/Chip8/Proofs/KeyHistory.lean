import Chip8.Machine.Keypad
import Chip8.Proofs.History

/-!
# The history of a key

A host holds keys down and lets them go, with any integers as their numbers and in any order. This
module says which requests are refused and that those change nothing, and that what can be seen of
the keypad afterwards is one and the same: the keys that went down last and not up.

* A key is down if it was last told so (`Keypad.Request.tells`), by being held down, by being let go
  or by a reset.
* The keys that are down are listed by their numbers, so the last one of the list is the highest
  (`Keypad.highest?_eq_some_iff`), whichever went down last. A scan in which a later key replaces
  the one found before finds it too (`Keypad.highest?_eq_foldl`).

The main result is `Keypad.key_history`. Its step is `Keypad.holds_step`, and the run is that of any
history.
-/

namespace Chip8.Keypad

/-- A request that may change a keypad. -/
inductive Request
  | press (i : Int)
  | release (i : Int)
  | reset
  deriving DecidableEq, Repr

/-- What a request tells of a key. -/
def Request.tells (i : Fin 16) : Request → Option Bool
  | press j => if j = i.val then some true else none
  | release j => if j = i.val then some false else none
  | reset => some false

variable {k : Keypad}

/-- What is done for a request. -/
def request : Request → Access Fault Keypad Unit
  | .press i => pressing i
  | .release i => releasing i
  | .reset => Access.change fun _ ↦ blank

/-- What a request leaves, or why it is refused. -/
def perform (k : Keypad) (r : Request) : Except Fault Keypad := History.performed request k r

/-- The keypad after some requests. -/
def after (k : Keypad) (rs : List Request) : Keypad := History.run request k rs

/-! ### One request -/

theorem clean_request (r : Request) : (request r).Clean := by
  cases r with
  | press i => exact clean_pressing i
  | release i => exact clean_releasing i
  | reset => exact Access.clean_change _

theorem perform_release (k : Keypad) (i : Int) : k.perform (.release i) = k.release i := by
  rw [perform, History.performed, request, run_releasing, Access.outcome_ending, Fault.map_map]
  cases k.release i with
  | ok t => rfl
  | error f => rfl

/-- Whether a key is held down. -/
def holds (k : Keypad) (i : Fin 16) : Bool := k.down.get i

theorem holds_blank (i : Fin 16) : blank.holds i = false := Vector.getElem_replicate i.isLt

/-- The key of a number held down or let go, if there is one. -/
def change (k : Keypad) (j : Int) (down : Bool) : Keypad :=
  (if down then k.press j else k.release j).toOption.getD k

/-- One key changed among all. -/
theorem holds_change (k : Keypad) (j : Int) (down : Bool) (i : Fin 16) :
    (k.change j down).holds i = if j = i.val then down else k.holds i := by
  have changed : k.change j down =
      ((key j).map fun x ↦ Keypad.mk (k.down.set x.val down x.isLt)).toOption.getD k := by
    cases down with
    | false => rfl
    | true => rfl
  rw [changed]
  rcases named : key j with f | x
  · have other : j ≠ i.val := by
      intro same
      rw [key_eq_ok_iff.2 same] at named
      cases named
    rw [if_neg other]
    rfl
  · obtain rfl := key_eq_ok_iff.1 named
    show (k.down.set x.val down x.isLt)[i.val] = _
    rw [Vector.getElem_set]
    exact if_congr Int.natCast_inj.symm rfl rfl

theorem step_press (k : Keypad) (j : Int) :
    History.step request k (.press j) = k.change j true := by
  rw [History.step, request, run_pressing, change, if_pos rfl]
  rcases k.press j with f | t
  · rfl
  · rfl

theorem step_release (k : Keypad) (j : Int) :
    History.step request k (.release j) = k.change j false := by
  rw [History.step, request, run_releasing, change, if_neg Bool.false_ne_true]
  rcases k.release j with f | t
  · rfl
  · rfl

/-- **A key after one request** is as the request tells, or else as it was. -/
theorem holds_step (k : Keypad) (i : Fin 16) (r : Request) :
    (History.step request k r).holds i = (r.tells i).getD (k.holds i) := by
  cases r with
  | press j =>
    rw [step_press, holds_change, Request.tells]
    split
    · rfl
    · rfl
  | release j =>
    rw [step_release, holds_change, Request.tells]
    split
    · rfl
    · rfl
  | reset => exact holds_blank i

/-- The keys after some requests to a keypad that was just made. -/
theorem holds_after (i : Fin 16) (rs : List Request) :
    (blank.after rs).holds i = (History.latest? (Request.tells i) rs).getD false := by
  rw [← holds_blank i]
  exact History.reading_run_of_tells (fun k : Keypad ↦ k.holds i) (fun k r ↦ holds_step k i r) blank
    rs

/-! ### The keys that are down -/

theorem mem_pressed_iff {i : Fin 16} : i ∈ k.pressed ↔ k.holds i = true := k.mem_pressed i

theorem pairwise_pressed (k : Keypad) : k.pressed.Pairwise (· < ·) :=
  (List.pairwise_lt_finRange 16).filter _

/-- The highest key is the greatest one that is down. -/
theorem highest?_eq_some_iff {i : Fin 16} :
    k.highest? = some i ↔ i ∈ k.pressed ∧ ∀ j ∈ k.pressed, j ≤ i := by
  have ascending := k.pairwise_pressed
  rw [highest?]
  rcases List.eq_nil_or_concat' k.pressed with none | ⟨lower, last, keys⟩
  · rw [none]
    simp
  · rw [keys, List.pairwise_append] at ascending
    have below (j : Fin 16) (mem : j ∈ lower) : j < last :=
      ascending.2.2 j mem last (List.mem_singleton_self last)
    rw [keys, List.getLast?_concat, Option.some.injEq]
    constructor
    · rintro rfl
      refine ⟨List.mem_append_right _ (List.mem_singleton_self last), fun j mem ↦ ?_⟩
      rcases List.mem_append.1 mem with mem | mem
      · exact Fin.le_of_lt (below j mem)
      · exact Fin.le_of_eq (List.mem_singleton.1 mem)
    · rintro ⟨mem, greatest⟩
      have above : last ≤ i :=
        greatest last (List.mem_append_right _ (List.mem_singleton_self last))
      rcases List.mem_append.1 mem with mem | mem
      · exact absurd (below i mem) (Fin.not_lt.2 above)
      · exact (List.mem_singleton.1 mem).symm

/-- A scan over the keys in which a later one replaces the one found before finds the highest. -/
theorem highest?_eq_foldl (k : Keypad) :
    k.highest? =
      (List.finRange 16).foldl (fun found i ↦ if k.holds i then some i else found) none := by
  show ((List.finRange 16).filter k.holds).getLast? = _
  induction List.finRange 16 using List.reverseRecOn with
  | nil => rfl
  | append_singleton keys i ih =>
    rw [List.filter_append, List.filter_singleton, List.foldl_concat, ← ih]
    rcases k.holds i with - | -
    · rw [cond_false, List.append_nil]
      rfl
    · rw [cond_true, List.getLast?_concat]
      rfl

theorem anyDown_iff : k.anyDown = true ↔ ∃ i, i ∈ k.pressed := by
  rw [anyDown, Vector.any_eq_true]
  constructor
  · rintro ⟨i, inside, down⟩
    exact ⟨⟨i, inside⟩, mem_pressed_iff.2 down⟩
  · rintro ⟨i, mem⟩
    exact ⟨i.val, i.isLt, mem_pressed_iff.1 mem⟩

theorem isDown_val (k : Keypad) (i : Fin 16) : k.isDown i.val = .ok (k.holds i) := by
  rw [isDown, key_eq_ok_iff.2 rfl]
  rfl

/-- What is done with a key is refused where there is no such key. -/
theorem map_key_eq_error_iff {α : Type} {g : Fin 16 → α} {i : Int} {f : Fault} :
    (key i).map g = .error f ↔ ¬(0 ≤ i ∧ i < 16) ∧ f = .outOfRange .key i 15 := by
  rw [Fault.map_eq_error_iff, key_eq_error_iff, eq_comm]

/-- **The history of a key.** Take any requests to a keypad. To hold a key down, to let it go and to
look at it is refused exactly if its number is none of the sixteen, and what is refused changes
nothing. The keys that are down are listed in ascending order, each of them once, and they are those
that were last told to be down. The highest key is the greatest of them, if there is one, in
whatever order they went down; some key is down if there is one; and a key that is looked at is down
if it is one of them. -/
theorem key_history (rs : List Request) :
    (∀ i f, (blank.after rs).press i = .error f ↔
      ¬(0 ≤ i ∧ i < 16) ∧ f = .outOfRange .key i 15) ∧
    (∀ i f, (blank.after rs).release i = .error f ↔
      ¬(0 ≤ i ∧ i < 16) ∧ f = .outOfRange .key i 15) ∧
    (∀ i f, (blank.after rs).isDown i = .error f ↔
      ¬(0 ≤ i ∧ i < 16) ∧ f = .outOfRange .key i 15) ∧
    (∀ r f, (blank.after rs).perform r = .error f → blank.after (rs ++ [r]) = blank.after rs) ∧
    (blank.after rs).pressed.Pairwise (· < ·) ∧
    (∀ i, i ∈ (blank.after rs).pressed ↔ History.latest? (Request.tells i) rs = some true) ∧
    (∀ i, (blank.after rs).highest? = some i ↔
      i ∈ (blank.after rs).pressed ∧ ∀ j ∈ (blank.after rs).pressed, j ≤ i) ∧
    ((blank.after rs).highest? = none ↔ (blank.after rs).pressed = []) ∧
    ((blank.after rs).anyDown = true ↔ ∃ i, i ∈ (blank.after rs).pressed) ∧
    ∀ i : Fin 16, ((blank.after rs).isDown i.val = .ok true ↔ i ∈ (blank.after rs).pressed) ∧
      ((blank.after rs).isDown i.val = .ok false ↔ i ∉ (blank.after rs).pressed) := by
  refine ⟨fun i f ↦ map_key_eq_error_iff, fun i f ↦ map_key_eq_error_iff,
    fun i f ↦ map_key_eq_error_iff, fun r f ↦ History.run_concat_of_refused (clean_request r),
    pairwise_pressed _,
    fun i ↦ ?pressed, fun i ↦ highest?_eq_some_iff, highest?_eq_none_iff, anyDown_iff,
    fun i ↦ ?down⟩
  case pressed =>
    rw [mem_pressed_iff, holds_after]
    rcases History.latest? (Request.tells i) rs with - | down
    · simp
    · rw [Option.getD_some, Option.some.injEq]
  case down =>
    rw [isDown_val, mem_pressed_iff, Except.ok.injEq, Except.ok.injEq, Bool.not_eq_true]
    exact ⟨Iff.rfl, Iff.rfl⟩

/-- Requests of which two name no key. The highest key goes down first, and the lowest one last. -/
def clumsyRequests : List Request :=
  [.press 12, .reset, .press 9, .press 2, .press 16, .release 2, .press 5, .release (-1), .press 1]

/-- That keypad after those requests. -/
theorem key_history_of_clumsyRequests :
    (blank.after clumsyRequests).press 16 = .error (.outOfRange .key 16 15) ∧
    blank.after (clumsyRequests ++ [.release (-1)]) = blank.after clumsyRequests ∧
    (blank.after clumsyRequests).pressed = [1, 5, 9] ∧
    (5 : Fin 16) ∈ (blank.after clumsyRequests).pressed ∧
    (blank.after clumsyRequests).highest? = some 9 ∧
    (blank.after clumsyRequests).isDown 2 = .ok false := by
  obtain ⟨press, release, -, kept, -, pressed, highest, -, -, down⟩ := key_history clumsyRequests
  have keys : (blank.after clumsyRequests).pressed = [1, 5, 9] := by decide
  refine ⟨(press 16 _).2 ⟨by decide, rfl⟩,
    kept _ _ ((perform_release _ _).trans ((release (-1) _).2 ⟨by decide, rfl⟩)), keys,
    (pressed 5).2 (by decide), (highest 9).2 ?_, (down 2).2.2 ?_⟩
  · rw [keys]
    decide
  · rw [keys]
    decide

end Chip8.Keypad
