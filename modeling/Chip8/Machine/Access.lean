import Chip8.Fault

/-!
# Accesses

An access to a part of a machine is a program on that part. It can be refused, and what it has
changed until then stays. So that a refused access changes nothing is not a matter of types: it
depends on the order in which the access checks and writes.

Beside an access stands the function that says in one go what it comes to (`Memory.writing` and
`Memory.writeBytes`, `CallStack.pushing` and `CallStack.push`, and so on), with a proof that the two
agree. `Access.ending` is how an access ends that agrees with such a function: where the function is
refused, it ends with the part that it started with.
-/

namespace Chip8

/-- A program on a part `σ` of a machine that answers an `α`, or is refused with an `ε`. -/
abbrev Access (ε σ α : Type) := EStateM ε σ α

namespace Access

variable {ε ε' σ α : Type}

/-- The part as it is now. -/
def part : Access ε σ σ := get

/-- Changes the part. -/
def change (f : σ → σ) : Access ε σ Unit := modify f

/-- Goes on with an answer, or is refused. -/
def check : Except ε α → Access ε σ α
  | .ok a => return a
  | .error e => throw e

/-- How an access to `s` ends that comes to an answer and what it leaves, or else is refused and has
changed nothing. -/
def ending (s : σ) : Except ε (α × σ) → EStateM.Result ε σ α
  | .ok (a, t) => .ok a t
  | .error e => .error e s

/-- What an access comes to: its answer and what it leaves, or why it was refused. -/
def outcome : EStateM.Result ε σ α → Except ε (α × σ)
  | .ok a t => .ok (a, t)
  | .error e _ => .error e

/-- What an access leaves, whether it was refused or not. -/
def left : EStateM.Result ε σ α → σ
  | .ok _ t => t
  | .error _ t => t

@[simp] theorem run_part (s : σ) : (part : Access ε σ σ).run s = .ok s s := rfl

@[simp] theorem run_change (f : σ → σ) (s : σ) :
    (change f : Access ε σ Unit).run s = .ok () (f s) :=
  rfl

@[simp] theorem run_check_ok (a : α) (s : σ) : (check (.ok a) : Access ε σ α).run s = .ok a s := rfl

@[simp] theorem outcome_ending (s : σ) (r : Except ε (α × σ)) : outcome (ending s r) = r := by
  cases r with
  | ok p => rfl
  | error e => rfl

/-- To be refused with another reason is to be refused. -/
theorem run_adaptExcept {a : Access ε σ α} {s : σ} {r : Except ε (α × σ)} (f : ε → ε')
    (run : a.run s = ending s r) : (EStateM.adaptExcept f a).run s = ending s (r.mapError f) := by
  have start : a s = ending s r := run
  rw [EStateM.run, EStateM.adaptExcept, start]
  cases r with
  | ok p => rfl
  | error e => rfl

/-! ### Accesses that change nothing if they are refused -/

/-- An access that, wherever it is refused, has changed nothing. -/
def Clean (a : Access ε σ α) : Prop := ∀ s, a.run s = ending s (outcome (a.run s))

variable {a : Access ε σ α} {s : σ} {e : ε}

/-- An access is clean if it comes to a function. -/
theorem Clean.of_ending {g : σ → Except ε (α × σ)} (run : ∀ s, a.run s = ending s (g s)) :
    a.Clean := by
  intro s
  rw [run s, outcome_ending]

theorem clean_change (f : σ → σ) : (change f : Access ε σ Unit).Clean := fun _ ↦ rfl

theorem Clean.adaptExcept (clean : a.Clean) (f : ε → ε') : Clean (EStateM.adaptExcept f a) :=
  .of_ending fun s ↦ run_adaptExcept f (clean s)

/-- What is answered to a clean access can be replaced. -/
theorem Clean.map {β : Type} (clean : a.Clean) (f : α → β) : Clean (do return f (← a)) := by
  intro s
  rw [EStateM.run_bind, clean s]
  cases outcome (a.run s) with
  | ok p => rfl
  | error e => rfl

/-- **A clean access that is refused leaves what it started with.** -/
theorem Clean.left_of_refused (clean : a.Clean) (refused : outcome (a.run s) = .error e) :
    left (a.run s) = s := by
  rw [clean s, refused]
  rfl

end Access

end Chip8
