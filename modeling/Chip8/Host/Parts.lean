import Chip8.Host.Argument

/-!
# Registers, call stack and keypad with their arguments

The small parts of a machine with any values as indices and contents. An index is checked before the
value that goes there; a value that is masked has to be an integer. Where an operation that needs no
argument succeeds or fails without it, the argument is not looked at.
-/

namespace Chip8.Host

/-! ### Registers -/

/-- The contents of a register. -/
def readRegister (r : Registers) (i : Json) : Except Error Byte := do
  (r.read (← index .register RegIndex.count i)).mapError .ofFault

/-- One register set to the byte congruent to a value. -/
def writeRegister (r : Registers) (i value : Json) : Except Error Registers := do
  let i ← index .register RegIndex.count i
  (r.write i (← integer value)).mapError .ofFault

/-- The flag register set. -/
def writeFlag (r : Registers) (value : Json) : Except Error Registers := do
  return r.set .flag (Byte.ofInt (← integer value))

/-- The index register set. -/
def writeIndex (r : Registers) (value : Json) : Except Error Registers := do
  return { r with index := Word.ofInt (← integer value) }

/-- The program counter set. -/
def writePc (r : Registers) (value : Json) : Except Error Registers := do
  return { r with pc := Word.ofInt (← integer value) }

/-- All registers zero and the program counter set. The program counter comes last, so the others
are zero even if its value is refused. -/
def resetRegisters (r : Registers) (pc : Json) : Except Error Unit × Registers :=
  match writePc r.clear pc with
  | .ok r => (.ok (), r)
  | .error e => (.error e, r.clear)

/-! ### The call stack -/

variable {depth : Int}

/-- The depth of a call stack that a host asks for. -/
def stackDepth (j : Json) : Except Error Int := do
  let depth ← integer j
  (Extent.check depth).mapError .extent
  return depth

/-- Pushes an address. The place of the call and the depth are told only if the stack is full; the
depth is told as it was asked for. -/
def push (s : CallStack depth) (asked address pc : Json) : Except Error (CallStack depth) :=
  if s.isFull then .error (Account.stackOverflow pc asked).error
  else do (s.push (← integer address) 0).mapError .ofFault

/-- Takes the latest address. The place of the return is told only if there is none. -/
def pop (s : CallStack depth) (pc : Json) : Except Error (Word × CallStack depth) :=
  (s.pop 0).mapError fun _ ↦ (Account.stackUnderflow pc).error

/-- The contents of any slot. -/
def slot (s : CallStack depth) (i : Json) : Except Error Word := do
  (s.slot (← index .stack depth i)).mapError .ofFault

/-! ### The keypad -/

/-- The key that an argument names. -/
def key (i : Json) : Except Error Int := index .key Keypad.count i

/-- Holds a key down. -/
def press (k : Keypad) (i : Json) : Except Error Keypad := do
  (k.press (← key i)).mapError .ofFault

/-- Lets a key go. -/
def release (k : Keypad) (i : Json) : Except Error Keypad := do
  (k.release (← key i)).mapError .ofFault

/-- Whether a key is down. -/
def isDown (k : Keypad) (i : Json) : Except Error Bool := do
  (k.isDown (← key i)).mapError .ofFault

/-! ### Integers as arguments -/

/-- An access at an integer is refused where the index is checked if it is refused there anyway. -/
theorem access_int {α : Type} {what : IndexKind} {size : Int} (access : Int → Except Fault α)
    (refused : ∀ i, ¬(0 ≤ i ∧ i < size) → access i = .error (.outOfRange what i (size - 1)))
    (i : Int) :
    (do (access (← index what size (.int i))).mapError Error.ofFault) =
      (access i).mapError .ofFault := by
  rw [index_int]
  by_cases h : 0 ≤ i ∧ i < size
  · rw [if_pos h]
    rfl
  · rw [if_neg h, refused i h]
    rfl

/-- An integer names a register exactly as it does without a host. -/
theorem readRegister_int (r : Registers) (i : Int) :
    readRegister r (.int i) = (r.read i).mapError .ofFault := by
  refine access_int r.read (fun i outside ↦ ?_) i
  have none : ¬(0 ≤ i ∧ i < 16) := outside
  rw [Registers.read, RegIndex.ofInt, dif_neg none]
  rfl

/-- An integer names a slot exactly as it does without a host. -/
theorem slot_int (s : CallStack depth) (i : Int) :
    slot s (.int i) = (s.slot i).mapError .ofFault :=
  access_int s.slot (fun _ outside ↦ dif_neg outside) i

/-- An integer names a key exactly as it does without a host, whatever is done with the key. -/
theorem key_int {α : Type} (f : Fin 16 → α) (i : Int) :
    (do ((Keypad.key (← key (.int i))).map f).mapError Error.ofFault) =
      ((Keypad.key i).map f).mapError .ofFault := by
  refine access_int (fun i ↦ (Keypad.key i).map f) (fun i outside ↦ ?_) i
  rw [Keypad.key_eq_error_iff.2 ⟨outside, rfl⟩]
  rfl

theorem press_int (k : Keypad) (i : Int) : press k (.int i) = (k.press i).mapError .ofFault :=
  key_int _ i

theorem release_int (k : Keypad) (i : Int) : release k (.int i) = (k.release i).mapError .ofFault :=
  key_int _ i

theorem isDown_int (k : Keypad) (i : Int) : isDown k (.int i) = (k.isDown i).mapError .ofFault :=
  key_int _ i

/-- A push of integers is the push of the call stack. -/
theorem push_int (s : CallStack depth) (address pc : Int) :
    push s (.int depth) (.int address) (.int pc) = (s.push address pc).mapError .ofFault := by
  unfold push
  by_cases full : s.isFull = true
  · rw [if_pos full, (s.push_eq_error_iff address pc).2 full]
    exact congrArg Except.error (error_ofFault (.stackOverflow pc depth))
  · rw [if_neg full]
    have room : s.pointer < depth.toNat := by
      simpa [CallStack.isFull] using full
    simp only [integer_int, bind, Except.bind, CallStack.push, room, dif_pos]

/-- A pop by an integer is the pop of the call stack. -/
theorem pop_int (s : CallStack depth) (pc : Int) :
    pop s (.int pc) = (s.pop pc).mapError .ofFault := by
  obtain ⟨slots, pointer, le⟩ := s
  cases pointer with
  | zero => exact congrArg Except.error (error_ofFault (.stackUnderflow pc))
  | succ p => rfl

end Chip8.Host
