import Chip8.Text.CodeUnit
import Chip8.Trace.Event

/-!
# Observers

Delivery is the same whatever an event is, so a tracer is over any type of events; a machine has one
over `Event`.

A tracer delivers each event to every observer that is registered when the event starts, in the
order of registration. An observer keeps what it was delivered until it is cleared. An observer with
`once` unregisters itself when it is delivered an event; that event still reaches the observers
after it, because delivery goes through the list as it was at the start.
-/

namespace Chip8

/-- Someone who receives events, known by name. -/
structure Observer where
  name : List CodeUnit
  /-- Whether the observer unregisters itself when it receives an event. -/
  once : Bool
  deriving DecidableEq, Repr

/-- The registered observers and what each observer has received. -/
structure Tracer (ε : Type) where
  /-- The registered observers, in the order of registration. -/
  registered : List Observer
  /-- The events that observers hold. -/
  records : List (Observer × Array ε)
  deriving DecidableEq

namespace Tracer

variable {ε : Type}

/-- No observer, and nothing received. -/
def empty : Tracer ε := ⟨[], []⟩

/-- Whether an observer is registered. -/
def hasObservers (t : Tracer ε) : Bool := !t.registered.isEmpty

/-- Adds an observer at the end, unless it is registered already. -/
def register (t : Tracer ε) (o : Observer) : Tracer ε :=
  if o ∈ t.registered then t else { t with registered := t.registered ++ [o] }

/-- Takes an observer out, if it is registered. -/
def unregister (t : Tracer ε) (o : Observer) : Tracer ε :=
  { t with registered := t.registered.erase o }

/-- Records with the record of one observer changed. -/
def update (o : Observer) (f : Array ε → Array ε) :
    List (Observer × Array ε) → List (Observer × Array ε)
  | [] => [(o, f #[])]
  | (p, events) :: rest => if p = o then (p, f events) :: rest else (p, events) :: update o f rest

/-- The events among records that one observer holds. -/
def find (o : Observer) : List (Observer × Array ε) → Array ε
  | [] => #[]
  | (p, events) :: rest => if p = o then events else find o rest

/-- The events that an observer holds, oldest first. -/
def held (t : Tracer ε) (o : Observer) : Array ε := find o t.records

/-- The events that an observer holds of those that are asked for. -/
def select (t : Tracer ε) (o : Observer) (p : ε → Bool) : List ε := (t.held o).toList.filter p

/-- Takes away what an observer holds. -/
def clear (t : Tracer ε) (o : Observer) : Tracer ε :=
  { t with records := update o (fun _ ↦ #[]) t.records }

/-- Hands an event to one observer. -/
def deliver (e : ε) (t : Tracer ε) (o : Observer) : Tracer ε :=
  let t := { t with records := update o (·.push e) t.records }
  if o.once then t.unregister o else t

/-- Hands an event to every observer that is registered now. -/
def emit (t : Tracer ε) (e : ε) : Tracer ε := t.registered.foldl (deliver e) t

@[simp] theorem find_update_self (o : Observer) (f : Array ε → Array ε)
    (records : List (Observer × Array ε)) :
    find o (update o f records) = f (find o records) := by
  induction records with
  | nil => simp [update, find]
  | cons r rest ih =>
    obtain ⟨p, events⟩ := r
    by_cases h : p = o <;> simp [update, find, h, ih]

theorem find_update_of_ne {o p : Observer} (h : p ≠ o) (f : Array ε → Array ε)
    (records : List (Observer × Array ε)) :
    find p (update o f records) = find p records := by
  induction records with
  | nil => simp [update, find, h.symm]
  | cons r rest ih =>
    obtain ⟨q, events⟩ := r
    by_cases hq : q = o
    · subst hq
      simp [update, find, h.symm]
    · simp only [update, hq, if_false, find, ih]

@[simp] theorem held_empty (o : Observer) : (empty : Tracer ε).held o = #[] := rfl

/-- With no observer registered an event reaches nobody. -/
theorem emit_of_registered_eq_nil {t : Tracer ε} (h : t.registered = []) (e : ε) :
    t.emit e = t := by
  simp [emit, h]

/-- To ask for observers before an event is handed out makes no difference. -/
theorem emit_of_hasObservers (t : Tracer ε) (e : ε) :
    (if t.hasObservers then t.emit e else t) = t.emit e := by
  rcases registered : t.registered with - | ⟨o, os⟩
  · have nobody : t.hasObservers = false := by rw [hasObservers, registered]; rfl
    rw [nobody, emit_of_registered_eq_nil registered]
    rfl
  · have somebody : t.hasObservers = true := by rw [hasObservers, registered]; rfl
    rw [if_pos somebody]

/-- Registering an observer that is registered changes nothing. -/
theorem register_of_mem {t : Tracer ε} {o : Observer} (h : o ∈ t.registered) : t.register o = t :=
  if_pos h

end Tracer

end Chip8
