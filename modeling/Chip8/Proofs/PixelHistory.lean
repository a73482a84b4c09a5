import Chip8.Machine.Screen
import Chip8.Proofs.History
import Mathlib.Logic.Function.Iterate

/-!
# The history of a pixel

A screen of any shape is asked to set and to toggle pixels, at any integers as coordinates, to go
dark, and to raise or lower its flag, in any order. This module says which requests are refused, and
what can be read from the screen afterwards.

* A pixel is refused if its column is beside the screen, and otherwise if its row is, and the fault
  tells which (`Screen.Beside`). A request that is refused changes nothing.
* Whether a pixel is lit is what it was last told (`Screen.Request.tells`), by being set or by the
  screen going dark, negated once for each time that it was toggled since (`Screen.Request.flips`).

Neither of the two looks at other pixels, so a grid that confused its rows with its columns would
fail here unless it was square. The main result is `Screen.pixel_history`. Its step is
`Screen.lit_step`, and the run is that of any history.
-/

namespace Chip8.Screen

/-- A request that may change a screen. -/
inductive Request
  | set (x y : Int) (value : Bool)
  | flip (x y : Int)
  | clear
  | reset
  | markDirty
  | clearDirty
  deriving DecidableEq, Repr

namespace Request

/-- What a request tells of the pixel at some coordinates. -/
def tells (x y : Int) : Request → Option Bool
  | set x' y' value => if x' = x ∧ y' = y then some value else none
  | clear | reset => some false
  | _ => none

/-- Whether a request toggles the pixel at some coordinates. -/
def flips (x y : Int) : Request → Bool
  | flip x' y' => x' = x ∧ y' = y
  | _ => false

end Request

variable {width height : Nat} {s : Screen width height} {x y : Int} {f : Fault}

/-- What is done for a request. -/
def request : Request → Access Fault (Screen width height) Unit
  | .set x y value => setting x y value
  | .flip x y => do
    let _ ← flipping x y
    return
  | .clear => Access.change clear
  | .reset => Access.change fun _ ↦ blank width height
  | .markDirty => Access.change markDirty
  | .clearDirty => Access.change clearDirty

/-- What a request leaves, or why it is refused. -/
def perform (s : Screen width height) (r : Request) : Except Fault (Screen width height) :=
  History.performed request s r

/-- The screen after some requests. -/
def after (s : Screen width height) (rs : List Request) : Screen width height :=
  History.run request s rs

/-- Whether a fault tells what is beside the screen: the column, or else the row. -/
def Beside (width height : Nat) (x y : Int) (f : Fault) : Prop :=
  ¬(0 ≤ x ∧ x < width) ∧ f = .outOfRange .column x (width - 1) ∨
    (0 ≤ x ∧ x < width) ∧ ¬(0 ≤ y ∧ y < height) ∧ f = .outOfRange .row y (height - 1)

/-! ### What is refused -/

/-- **Wherever a request is refused, neither a pixel nor the flag has been written.** -/
theorem clean_request (r : Request) :
    (request r : Access Fault (Screen width height) Unit).Clean := by
  cases r with
  | set x y value => exact clean_setting x y value
  | flip x y => exact (clean_flipping x y).map fun _ ↦ ()
  | clear | reset | markDirty | clearDirty => exact Access.clean_change _

theorem perform_set (s : Screen width height) (x y : Int) (value : Bool) :
    s.perform (.set x y value) = s.set x y value := by
  rw [perform, History.performed, request, run_setting, Access.outcome_ending]
  cases s.set x y value with
  | ok t => rfl
  | error f => rfl

theorem perform_flip (s : Screen width height) (x y : Int) :
    s.perform (.flip x y) = (s.flip x y).map Prod.snd := by
  rw [perform, History.performed, request, EStateM.run_bind, run_flipping]
  cases s.flip x y with
  | ok r => rfl
  | error f => rfl

/-- Coordinates are refused exactly if one of them is beside the screen. -/
theorem position_eq_error_iff :
    position width height x y = .error f ↔ Beside width height x y f := by
  unfold Beside
  by_cases hx : 0 ≤ x ∧ x < width
  · by_cases hy : 0 ≤ y ∧ y < height
    · rw [position, column, row, dif_pos hx, dif_pos hy]
      simp [hx, hy, bind, Except.bind, pure, Except.pure]
    · rw [position, column, row, dif_pos hx, dif_neg hy]
      simp [hx, hy, bind, Except.bind, eq_comm]
  · rw [position, column, dif_neg hx]
    simp [hx, bind, Except.bind, eq_comm]

/-- A coordinate that is in range is that of a column, or of a row. -/
theorem exists_val {size : Nat} {i : Int} (first : 0 ≤ i) (last : i < size) :
    ∃ c : Fin size, i = c.val :=
  ⟨⟨i.toNat, by omega⟩, (Int.toNat_of_nonneg first).symm⟩

/-- Other coordinates are those of a position. -/
theorem beside_or_val (width height : Nat) (x y : Int) :
    (∃ f, Beside width height x y f) ∨
      ∃ (c : Fin width) (r : Fin height), x = c.val ∧ y = r.val := by
  by_cases hx : 0 ≤ x ∧ x < width
  · by_cases hy : 0 ≤ y ∧ y < height
    · obtain ⟨c, column⟩ := exists_val hx.1 hx.2
      obtain ⟨r, row⟩ := exists_val hy.1 hy.2
      exact .inr ⟨c, r, column, row⟩
    · exact .inl ⟨_, .inr ⟨hx, hy, rfl⟩⟩
  · exact .inl ⟨_, .inl ⟨hx, rfl⟩⟩

/-- What is refused at some coordinates is refused with a fault that tells which is beside. -/
theorem map_position_eq_error_iff {α : Type} {g : Fin width × Fin height → α} :
    (position width height x y).map g = .error f ↔ Beside width height x y f :=
  Fault.map_eq_error_iff.trans position_eq_error_iff

/-! ### One request -/

/-- The pixel at some coordinates changed, if there is one. -/
def changeAt (s : Screen width height) (x y : Int) (g : Bool → Bool) : Screen width height :=
  match position width height x y with
  | .ok (c, r) => s.modify c r g
  | .error _ => s

/-- One pixel changed among all. -/
theorem lit_changeAt (s : Screen width height) (x y : Int) (g : Bool → Bool) (c : Fin width)
    (r : Fin height) :
    (s.changeAt x y g).lit c r = if x = c.val ∧ y = r.val then g (s.lit c r) else s.lit c r := by
  rw [changeAt]
  obtain ⟨f, beside⟩ | ⟨c', r', rfl, rfl⟩ := beside_or_val width height x y
  · have refused := position_eq_error_iff.2 beside
    have other : ¬(x = c.val ∧ y = r.val) := by
      rintro ⟨rfl, rfl⟩
      rw [position_val] at refused
      cases refused
    rw [refused, if_neg other]
  · rw [position_val]
    by_cases same : c = c' ∧ r = r'
    · obtain ⟨rfl, rfl⟩ := same
      rw [if_pos ⟨rfl, rfl⟩]
      exact lit_modify_self ..
    · have other : ¬((c'.val : Int) = c.val ∧ (r'.val : Int) = r.val) := by
        rintro ⟨column, row⟩
        exact same ⟨Fin.ext (by omega), Fin.ext (by omega)⟩
      rw [if_neg other]
      exact lit_modify_of_ne s g (not_and_or.1 same)

theorem step_set (s : Screen width height) (x y : Int) (value : Bool) :
    History.step request s (.set x y value) = s.changeAt x y fun _ ↦ value := by
  rw [History.step, request, run_setting, set, changeAt]
  rcases position width height x y with f | ⟨c, r⟩
  · rfl
  · rfl

theorem step_flip (s : Screen width height) (x y : Int) :
    History.step request s (.flip x y) = s.changeAt x y not := by
  rw [History.step, request, EStateM.run_bind, run_flipping, flip, changeAt]
  rcases position width height x y with f | ⟨c, r⟩
  · rfl
  · rfl

/-- **A pixel after one request** is what the request tells of it, or else it is as it was, negated
if the request toggles it. -/
theorem lit_step (s : Screen width height) (c : Fin width) (r : Fin height)
    (request : Request) :
    (History.step Screen.request s request).lit c r =
      (request.tells c.val r.val).getD
        (if request.flips c.val r.val then !s.lit c r else s.lit c r) := by
  cases request with
  | set x y value =>
    rw [step_set, lit_changeAt, Request.tells]
    split
    · rfl
    · rfl
  | flip x y =>
    rw [step_flip, lit_changeAt, Request.flips]
    simp [Request.tells]
  | clear => exact lit_blank c r
  | reset => exact lit_blank c r
  | markDirty => rfl
  | clearDirty => rfl

/-! ### Any requests -/

/-- What is toggled by some requests is negated as often. -/
theorem foldl_flips (x y : Int) (rs : List Request) (lit : Bool) :
    rs.foldl (fun lit r ↦ if r.flips x y then !lit else lit) lit =
      not^[rs.countP (·.flips x y)] lit := by
  induction rs generalizing lit with
  | nil => rfl
  | cons r rs ih =>
    rw [List.foldl_cons, ih, List.countP_cons]
    by_cases flips : r.flips x y = true
    · rw [if_pos flips, if_pos flips, Function.iterate_succ_apply]
    · rw [if_neg flips, if_neg flips, Nat.add_zero]

/-- The pixels after some requests to a screen that was just made. -/
theorem lit_after (c : Fin width) (r : Fin height) (rs : List Request) :
    ((blank width height).after rs).lit c r =
      not^[(History.sinceLatest (Request.tells c.val r.val) rs).countP (·.flips c.val r.val)]
        ((History.latest? (Request.tells c.val r.val) rs).getD false) := by
  rw [← foldl_flips, ← lit_blank c r]
  exact History.reading_run (fun s : Screen width height ↦ s.lit c r)
    (fun s request ↦ lit_step s c r request) (blank width height) rs

/-- **What a toggle answers** can be read from the screen that it leaves. -/
theorem get_of_flip {t : Screen width height} {lit : Bool} (h : s.flip x y = .ok (lit, t)) :
    t.get x y = .ok lit := by
  obtain ⟨f, beside⟩ | ⟨c, r, rfl, rfl⟩ := beside_or_val width height x y
  · rw [flip, map_position_eq_error_iff.2 beside] at h
    cases h
  · rw [flip_val] at h
    cases h
    rw [get_val, lit_modify_self]

/-- **The history of a pixel.** Take a screen of any shape and any requests to it. To look at a
pixel, to set it and to toggle it is refused exactly if its column is beside the screen, or else its
row, and the fault tells which; a request that is refused changes nothing, the flag included. Any
other pixel is what it was last told, by being set or by the screen going dark, negated once for
each time it was toggled since. A toggle answers what the pixel is after it. -/
theorem pixel_history (width height : Nat) (rs : List Request) :
    (∀ x y f, ((blank width height).after rs).get x y = .error f ↔ Beside width height x y f) ∧
    (∀ x y value f,
      ((blank width height).after rs).set x y value = .error f ↔ Beside width height x y f) ∧
    (∀ x y f, ((blank width height).after rs).flip x y = .error f ↔ Beside width height x y f) ∧
    (∀ r f, ((blank width height).after rs).perform r = .error f →
      (blank width height).after (rs ++ [r]) = (blank width height).after rs) ∧
    (∀ x y : Int, 0 ≤ x → x < width → 0 ≤ y → y < height →
      ((blank width height).after rs).get x y =
        .ok (not^[(History.sinceLatest (Request.tells x y) rs).countP (·.flips x y)]
          ((History.latest? (Request.tells x y) rs).getD false))) ∧
    ∀ x y lit t, ((blank width height).after rs).flip x y = .ok (lit, t) →
      (blank width height).after (rs ++ [.flip x y]) = t ∧ t.get x y = .ok lit := by
  refine ⟨fun x y f ↦ map_position_eq_error_iff, fun x y value f ↦ map_position_eq_error_iff,
    fun x y f ↦ map_position_eq_error_iff,
    fun r f ↦ History.run_concat_of_refused (clean_request r), ?pixel, ?toggle⟩
  case pixel =>
    intro x y left right top bottom
    obtain ⟨c, rfl⟩ := exists_val left right
    obtain ⟨r, rfl⟩ := exists_val top bottom
    rw [get_val, lit_after]
  case toggle =>
    intro x y lit t toggled
    have done : ((blank width height).after rs).perform (.flip x y) = .ok t := by
      rw [perform_flip, toggled]
      rfl
    exact ⟨History.run_concat_of_performed done, get_of_flip toggled⟩

/-- Requests to a screen that is wider than it is high. Two of them are beside it. -/
def wideRequests : List Request :=
  [.flip 2 1, .set 2 1 true, .flip 0 0, .flip 2 1, .flip 1 2, .flip 2 1, .set 3 0 true, .clearDirty]

/-- That screen after those requests. -/
theorem pixel_history_of_wideRequests :
    ((blank 3 2).after wideRequests).get 3 2 = .error (.outOfRange .column 3 2) ∧
      ((blank 3 2).after wideRequests).flip 1 2 = .error (.outOfRange .row 2 1) ∧
      (blank 3 2).after (wideRequests ++ [.set (-1) 5 true]) = (blank 3 2).after wideRequests ∧
      ((blank 3 2).after wideRequests).get 2 1 = .ok true ∧
      ∃ t, ((blank 3 2).after wideRequests).flip 0 0 = .ok (false, t) ∧ t.get 0 0 = .ok false := by
  obtain ⟨get, set, flip, kept, pixel, toggle⟩ := pixel_history 3 2 wideRequests
  refine ⟨(get 3 2 _).2 (.inl ⟨by decide, rfl⟩),
    (flip 1 2 _).2 (.inr ⟨by decide, by decide, rfl⟩),
    kept _ _ ((perform_set _ (-1) 5 true).trans ((set (-1) 5 true _).2 (.inl ⟨by decide, rfl⟩))),
    ?_, _, rfl, ?_⟩
  · exact (pixel 2 1 (by decide) (by decide) (by decide) (by decide)).trans
      (congrArg Except.ok (by decide))
  · exact (toggle 0 0 false _ rfl).2

end Chip8.Screen
