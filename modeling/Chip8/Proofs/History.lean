import Chip8.Machine.Access
import Mathlib.Data.List.DropRight

/-!
# Histories

A part of a machine is asked one thing after the other, and goes on from what each request leaves,
also from what is left of one that it refused (`History.run`). So that a refused request changes
nothing is a property of the requests (`History.run_concat_of_refused`).

What can be read off the part in the end is what it was told by the latest request that tells it
anything, changed by what came after that request. Here this is said once, for any requests and any
reading, by two functions of a history.

* `History.latest?` is what is told by the latest request that tells anything.
* `History.sinceLatest` is the part of the history after that request.

If one request leaves the reading that it tells, or else changes the reading before it, then so does
a whole history (`History.reading_run`). A part has many readings, such as the cells of a memory or
the pixels of a screen, and a request tells few of them what they are.
-/

namespace Chip8.History

variable {α β γ σ ε : Type} {perform : α → Access ε σ γ} {tells : α → Option β} {s t : σ}
  {rs : List α} {r : α} {e : ε}

/-! ### What was told -/

/-- What is told by the latest request of a history that tells anything. -/
def latest? (tells : α → Option β) (rs : List α) : Option β := rs.reverse.findSome? tells

/-- The requests after the latest one that tells anything, or all of them if none does. -/
def sinceLatest (tells : α → Option β) (rs : List α) : List α :=
  rs.rtakeWhile fun r ↦ (tells r).isNone

theorem latest?_concat : latest? tells (rs ++ [r]) = (tells r).or (latest? tells rs) := by
  rw [latest?, List.reverse_concat, List.findSome?_cons]
  rcases tells r with - | b
  · rfl
  · rfl

theorem sinceLatest_concat :
    sinceLatest tells (rs ++ [r]) = if (tells r).isNone then sinceLatest tells rs ++ [r] else [] :=
  List.rtakeWhile_concat ..

/-- Requests that tell nothing can be left out. -/
theorem latest?_filter {p : α → Bool} (silent : ∀ r, p r = false → tells r = none) (rs : List α) :
    latest? tells (rs.filter p) = latest? tells rs := by
  induction rs using List.reverseRecOn with
  | nil => rfl
  | append_singleton rs r ih =>
    rw [List.filter_append, latest?_concat, ← ih]
    rcases kept : p r with - | -
    · rw [List.filter_singleton, kept, cond_false, List.append_nil, silent r kept, Option.none_or]
    · rw [List.filter_singleton, kept, cond_true, latest?_concat]

/-! ### Runs -/

/-- What a request leaves, whether it is refused or not. -/
def step (perform : α → Access ε σ γ) (s : σ) (r : α) : σ := Access.left ((perform r).run s)

/-- What some requests leave, one after the other. -/
def run (perform : α → Access ε σ γ) (s : σ) (rs : List α) : σ := rs.foldl (step perform) s

/-- What a request leaves, or why it is refused. -/
def performed (perform : α → Access ε σ γ) (s : σ) (r : α) : Except ε σ :=
  (Access.outcome ((perform r).run s)).map Prod.snd

/-- What is left of a request that is not refused. -/
theorem step_of_performed (done : performed perform s r = .ok t) : step perform s r = t := by
  rw [performed] at done
  rw [step]
  cases ran : (perform r).run s with
  | ok v u =>
    rw [ran] at done
    cases done
    rfl
  | error f u =>
    rw [ran] at done
    cases done

/-- **A request that is clean and refused changes nothing.** -/
theorem step_of_refused (clean : (perform r).Clean) (refused : performed perform s r = .error e) :
    step perform s r = s := by
  rw [performed] at refused
  cases outcome : Access.outcome ((perform r).run s) with
  | ok p =>
    rw [outcome] at refused
    cases refused
  | error f => exact clean.left_of_refused outcome

theorem run_concat (perform : α → Access ε σ γ) (s : σ) (rs : List α) (r : α) :
    run perform s (rs ++ [r]) = step perform (run perform s rs) r :=
  List.foldl_concat ..

theorem run_concat_of_performed (done : performed perform (run perform s rs) r = .ok t) :
    run perform s (rs ++ [r]) = t := by
  rw [run_concat, step_of_performed done]

theorem run_concat_of_refused (clean : (perform r).Clean)
    (refused : performed perform (run perform s rs) r = .error e) :
    run perform s (rs ++ [r]) = run perform s rs := by
  rw [run_concat, step_of_refused clean refused]

/-- **A reading after a history.** It is what was told last, or the reading at the start if nothing
was, and then changed by each request since. -/
theorem reading_run (reading : σ → β) {changes : β → α → β}
    (one : ∀ s r, reading (step perform s r) = (tells r).getD (changes (reading s) r)) (s : σ)
    (rs : List α) :
    reading (run perform s rs) =
      (sinceLatest tells rs).foldl changes ((latest? tells rs).getD (reading s)) := by
  -- The latest request comes last in the run, so the induction takes it off the end.
  induction rs using List.reverseRecOn with
  | nil => rfl
  | append_singleton rs r ih =>
    rw [run_concat, one, latest?_concat, sinceLatest_concat]
    rcases tells r with - | b
    · rw [Option.isNone_none, if_pos rfl, List.foldl_concat, Option.none_or, ← ih]
      rfl
    · rfl

/-- A reading that only changes to what it is told. -/
theorem reading_run_of_tells (reading : σ → β)
    (one : ∀ s r, reading (step perform s r) = (tells r).getD (reading s)) (s : σ) (rs : List α) :
    reading (run perform s rs) = (latest? tells rs).getD (reading s) := by
  have told : reading (run perform s rs) =
      (sinceLatest tells rs).foldl (fun v _ ↦ v) ((latest? tells rs).getD (reading s)) :=
    reading_run reading one s rs
  rw [told, List.foldl_fixed]

end Chip8.History
