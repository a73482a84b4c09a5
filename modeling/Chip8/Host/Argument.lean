import Chip8.Host.Account
import Chip8.Machine.Basic
import Chip8.Machine.Extent

/-!
# Arguments

A host that speaks JSON may hand any value to any operation. This module holds what the operations
have in common: why a request is refused (`Host.Error`) and how a value becomes an integer that is
masked (`Host.integer`), a number that is only compared (`Host.number`) or an index that has to be
in a range (`Host.index`).

A truth value is the integer one or zero wherever an integer is asked for. A number with a fraction
is never an integer, even if its fraction is zero, but it is compared with a range before that
matters, and outside the range no fault can be told of it, because faults tell of integers. So the
error of an argument depends on where it falls, and `index_int` says that for integers it is the
fault that the operation itself has.
-/

namespace Chip8.Host

/-- Why a request was refused. -/
inductive Error
  /-- An argument is not what the operation takes. -/
  | argument (e : Conversion.Error)
  /-- A pixel between two others was asked for. -/
  | noPixel
  /-- A value that cannot be a name was given as one. -/
  | noName
  /-- There is no sheet of this name. -/
  | noSheet
  /-- A value without fields was given as a sheet. -/
  | noFields
  /-- The operation ran into a fault of this kind, which is told by the text. -/
  | fault (kind : Fault.Kind) (message : List CodeUnit)
  | timer (e : Timers.Error)
  /-- Nothing can be made of the size that was asked for. -/
  | extent (e : Extent.Error)
  | cycle (e : Cycle.Error)
  | glyph (e : Font.NoGlyph)
  deriving DecidableEq, Repr

/-- An argument of the wrong kind. -/
def Error.wrongKind : Error := .argument .wrongKind

/-- The error of a fault. -/
def Error.ofFault (f : Fault) : Error := .fault f.kind (CodeUnit.ofString f.message)

/-- The error of a refusal by a machine. -/
def Error.ofRefusal : Refusal → Error
  | .fault f => .ofFault f
  | .timer e => .timer e
  | .notAByte _ => .argument .badValue

/-- The error of an account: the fault that it tells of, unless it cannot be told. -/
def Account.error (a : Account) : Error :=
  match a.message with
  | .ok message => .fault a.kind message
  | .error e => .argument e

/-- The integer that an argument is. -/
def integer (j : Json) : Except Error Int := (Conversion.exactInteger j).mapError .argument

/-- The number that an argument is. -/
def number (j : Json) : Except Error Number := (Conversion.exactNumber j).mapError .argument

/-- The whole number that an argument means. -/
def whole (j : Json) : Except Error Int := (Conversion.integer .standard j).mapError .argument

/-- The values that an argument consists of. -/
def items (j : Json) : Except Error (List Json) := (Conversion.items j).mapError .argument

/-- The bytes that an argument denotes. -/
def bytes (j : Json) : Except Error (List Byte) := (Conversion.bytes j).mapError .argument

/-- The error of an index that is not below `size`. -/
def outside (what : IndexKind) (size : Int) (j : Json) : Error :=
  (Account.outOfRange (.text what.name) j (.int (size - 1))).error

/-- The number that an argument is, if it is at least zero and below `size`. -/
def within (what : IndexKind) (size : Int) (j : Json) : Except Error Number := do
  let n ← number j
  if n.isWithin size then return n
  throw (outside what size j)

/-- The index below `size` that an argument is. -/
def index (what : IndexKind) (size : Int) (j : Json) : Except Error Int := do
  let _ ← within what size j
  integer j

/-! ### Integers as arguments -/

/-- The account of a fault is the error of that fault. -/
@[simp] theorem error_ofFault (f : Fault) : (Account.ofFault f).error = .ofFault f := by
  simp [Account.error, Error.ofFault]

@[simp] theorem number_int (n : Int) : number (.int n) = .ok (.int n) := rfl

@[simp] theorem integer_int (n : Int) : integer (.int n) = .ok n := rfl

/-- An integer outside the range is the fault of that index. -/
theorem outside_int (what : IndexKind) (size n : Int) :
    outside what size (.int n) = .ofFault (.outOfRange what n (size - 1)) :=
  error_ofFault (.outOfRange what n (size - 1))

/-- An integer is an index exactly if it is in the range, and otherwise the fault of that index. -/
theorem index_int (what : IndexKind) (size n : Int) :
    index what size (.int n) =
      if 0 ≤ n ∧ n < size then .ok n else .error (.ofFault (.outOfRange what n (size - 1))) := by
  unfold index within
  rw [number_int, ← outside_int]
  simp only [bind, Except.bind, Number.isWithin_int, decide_eq_true_eq]
  by_cases h : 0 ≤ n ∧ n < size
  · simp only [h, and_self, if_true, integer_int]
    rfl
  · simp only [h, if_false]
    rfl

end Chip8.Host
