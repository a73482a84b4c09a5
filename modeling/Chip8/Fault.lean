import Chip8.Text.Hex

/-!
# Faults

The four ways in which the machine refuses an operation. Each fault carries what a host needs to
report it, as unbounded integers, because the offending index may be any integer that the host
handed in. The wording is put together from the texts of the parts (`Fault.rangeText` and the
functions after it), so that whoever has other parts than integers words them alike.
-/

namespace Chip8

open Text

/-- What an index counts. -/
inductive IndexKind
  | memory
  | register
  | stack
  | key
  | column
  | row
  deriving DecidableEq, Repr

/-- The name of what an index counts. -/
def IndexKind.name : IndexKind → String
  | memory => "memory"
  | register => "register"
  | stack => "stack"
  | key => "key"
  | column => "framebuffer column"
  | row => "framebuffer row"

/-- Why an operation was refused. -/
inductive Fault
  /-- `index` is not between zero and `limit`; `what` tells what it counts. -/
  | outOfRange (what : IndexKind) (index limit : Int)
  /-- `word` is no instruction; `address` is where it was met, if that is known. -/
  | unknownInstruction (word : Int) (address : Option Int)
  /-- A call at `address` found all `depth` slots of the call stack in use. -/
  | stackOverflow (address depth : Int)
  /-- A return at `address` found the call stack empty. -/
  | stackUnderflow (address : Int)
  deriving DecidableEq, Repr

namespace Fault

/-! ### Wording -/

/-- What follows the name of an index that is out of range. -/
def rangeText (index limit : String) : String :=
  " index 0x" ++ index ++ " out of range (limit 0x" ++ limit ++ ")"

/-- The text of a word that is no instruction, with the place where it was met, if that is known. -/
def unknownText (word : String) (address : Option String) : String :=
  "Unknown instruction 0x" ++ word ++ address.elim "" (" at 0x" ++ ·)

/-- What stands before the depth of a call stack that is full. -/
def overflowText (address : String) : String :=
  "Call stack overflow at 0x" ++ address ++ " (depth "

/-- What stands after the depth of a call stack that is full. -/
def overflowEnd : String := ")"

/-- The text of a return without a call. -/
def underflowText (address : String) : String := "Call stack underflow at 0x" ++ address

/-- The text of a fault: indices and addresses in hexadecimal, the depth of a stack in decimal. -/
def message : Fault → String
  | outOfRange what index limit => what.name ++ rangeText (hex 0 index) (hex 0 limit)
  | unknownInstruction word address => unknownText (hex 4 word) (address.map (hex 3))
  | stackOverflow address depth => overflowText (hex 3 address) ++ decimal depth ++ overflowEnd
  | stackUnderflow address => underflowText (hex 3 address)

/-! ### Kinds -/

/-- The kinds of faults. -/
inductive Kind
  | outOfRange | unknownInstruction | stackOverflow | stackUnderflow
  deriving DecidableEq, Repr

/-- The name of a kind of fault. -/
def Kind.name : Kind → String
  | outOfRange => "OutOfRangeError"
  | unknownInstruction => "UnknownInstructionError"
  | stackOverflow => "StackOverflowError"
  | stackUnderflow => "StackUnderflowError"

/-- The kind of a fault. -/
def kind : Fault → Kind
  | outOfRange .. => .outOfRange
  | unknownInstruction .. => .unknownInstruction
  | stackOverflow .. => .stackOverflow
  | stackUnderflow .. => .stackUnderflow

/-- Whether a kind of fault is an index that fell outside its range. -/
def Kind.isRange : Kind → Bool
  | outOfRange => true
  | _ => false

/-! ### Answers of operations that can end with a fault -/

section Answers

variable {α β γ : Type} {x : Except Fault α} {f : Fault}

/-- What is answered after a check comes from an answer of the check. -/
theorem exists_of_bind_eq_ok {f : α → Except Fault β} {b : β} (h : x >>= f = .ok b) :
    ∃ a, x = .ok a ∧ f a = .ok b := by
  cases x with
  | error e => cases h
  | ok a => exact ⟨a, rfl, h⟩

/-- What an answer is mapped to comes from an answer. -/
theorem exists_of_map_eq_ok {f : α → β} {b : β} (h : x.map f = .ok b) :
    ∃ a, x = .ok a ∧ f a = b := by
  cases x with
  | error e => cases h
  | ok a =>
    cases h
    exact ⟨a, rfl, rfl⟩

/-- Mapping twice is mapping once. -/
theorem map_map (x : Except Fault α) (f : α → β) (g : β → γ) :
    (x.map f).map g = x.map fun a ↦ g (f a) := by
  cases x with
  | error e => rfl
  | ok a => rfl

/-- What goes on alike after a check goes on alike with the check. -/
theorem bind_eq_map_bind {g : α → Except Fault β} {k : α → Except Fault γ} {h : γ → β}
    (same : ∀ a, g a = (k a).map h) : x >>= g = (x >>= k).map h := by
  cases x with
  | error f => rfl
  | ok a => exact same a

/-- What always goes on after a check is refused where the check is. -/
theorem bind_eq_error_iff {g : α → Except Fault β} (total : ∀ a, ∃ b, g a = .ok b) :
    x >>= g = .error f ↔ x = .error f := by
  cases x with
  | error e =>
    constructor
    · intro refused
      cases refused
      rfl
    · intro refused
      cases refused
      rfl
  | ok a =>
    obtain ⟨b, answered⟩ := total a
    show g a = .error f ↔ _
    rw [answered]
    exact ⟨nofun, nofun⟩

/-- What always goes on after a check is answered where the check is. -/
theorem exists_bind_eq_ok_iff {g : α → Except Fault β} (total : ∀ a, ∃ b, g a = .ok b) :
    (∃ b, x >>= g = .ok b) ↔ ∃ a, x = .ok a := by
  constructor
  · rintro ⟨b, h⟩
    obtain ⟨a, checked, -⟩ := exists_of_bind_eq_ok h
    exact ⟨a, checked⟩
  · rintro ⟨a, rfl⟩
    exact total a

/-- Mapping an answer refuses nothing. -/
theorem map_eq_error_iff {g : α → β} : x.map g = .error f ↔ x = .error f :=
  bind_eq_error_iff fun _ ↦ ⟨_, rfl⟩

/-- A single check is refused where it fails, and with its own fault. -/
theorem dite_eq_error_iff {p : Prop} [Decidable p] {a : p → α} {g : Fault} :
    (if h : p then .ok (a h) else .error g : Except Fault α) = .error f ↔ ¬p ∧ g = f := by
  by_cases h : p
  · simp [h]
  · simp [h]

end Answers

end Fault

/-- The number of a key or a register, as a natural number. -/
theorem toNat_lt_sixteen {i : Int} (h : 0 ≤ i ∧ i < 16) : i.toNat < 16 := by omega

end Chip8
