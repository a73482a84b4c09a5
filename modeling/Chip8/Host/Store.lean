import Chip8.Host.Argument

/-!
# Memory and its arguments

Access to memory with any values as addresses, counts and bytes. A span is checked as numbers are
compared, so an address with a fraction can be in range; it is refused only when a cell is looked up
(`Host.checkSpan`). For integers the check is the one of memory itself (`checkSpan_int`), and so is
every access: reading, writing and loading integers at integers is what memory does with them
(`readBytes_int`, `writeBytes_int`, `load_int` and the others).
-/

namespace Chip8.Host

variable {size : Nat}

/-- The sum of two numbers, if there is one. -/
def sum (a b : Number) : Except Error Number := (a.add b).mapError (.argument ∘ .number)

/-- The last of `count` cells from an address on. -/
def lastCell (address count : Number) : Except Error Number := do
  sum (← sum address count) (.int (-1))

/-- Checks that the `count` cells from an address on can be addressed. The first cell is checked
before the last one, and a count that is not above zero needs no cells. -/
def checkSpan (size : Nat) (address : Json) (count : Number) : Except Error Unit :=
  if count.exceeds 0 then do
    let first ← number address
    if first.isNegative || first.reaches size then throw (outside .memory size address)
    let last ← lastCell first count
    if last.reaches size then throw (outside .memory size (.number last))
  else .ok ()

/-- The byte at an address. -/
def readByte (m : Memory size) (address : Json) : Except Error Byte := do
  checkSpan size address (.int 1)
  (m.readByte (← integer address)).mapError .ofFault

/-- The word at an address. -/
def readWord (m : Memory size) (address : Json) : Except Error Word := do
  checkSpan size address (.int 2)
  (m.readWord (← integer address)).mapError .ofFault

/-- The bytes from an address on. The end of the span is computed before it is asked whether address
and count are integers. -/
def readBytes (m : Memory size) (address count : Json) : Except Error (List Byte) := do
  let n ← number count
  checkSpan size address n
  let _ ← sum (← number address) n
  (m.readBytes (← integer address) (← integer count)).mapError .ofFault

/-- Checks a span as a request for nothing but the check. -/
def checkRequest (size : Nat) (address count : Json) : Except Error Unit := do
  checkSpan size address (← number count)

/-- Writes one byte. The address is checked before the value. -/
def writeByte (m : Memory size) (address value : Json) : Except Error (Memory size) := do
  checkSpan size address (.int 1)
  let value ← integer value
  (m.writeByte (← integer address) (Byte.ofInt value)).mapError .ofFault

/-- Writes bytes from an address on. -/
def write (m : Memory size) (address : Json) (bytes : List Byte) : Except Error (Memory size) := do
  checkSpan size address (.int bytes.length)
  (m.writeBytes (← integer address) bytes).mapError .ofFault

/-- Writes the bytes congruent to some values, which are converted before the address is checked. -/
def writeBytes (m : Memory size) (address values : Json) : Except Error (Memory size) := do
  let values ← (← items values).mapM whole
  write m address (values.map Byte.ofInt)

/-- The byte that a value is, without reduction. -/
def exactByte (j : Json) : Except Error Byte := do
  let n ← integer j
  if 0 ≤ n ∧ n ≤ 255 then return Byte.ofInt n
  throw (.argument .badValue)

/-- A program image from a host. -/
inductive Image
  | bytes (bs : List Byte)
  /-- So many bytes of zero, which are not written out before they have a place. -/
  | zeros (count : Nat)

/-- The number of bytes of an image. -/
def Image.length : Image → Nat
  | bytes bs => bs.length
  | zeros count => count

/-- The bytes of an image. -/
def Image.toList : Image → List Byte
  | bytes bs => bs
  | zeros count => List.replicate count 0

theorem Image.length_toList (i : Image) : i.toList.length = i.length := by
  cases i with
  | bytes bs => rfl
  | zeros count => exact List.length_replicate

/-- The program image that an argument denotes: a text is read as hexadecimal digits, a list has a
byte in each item, and an integer is as many bytes of zero. -/
def image (j : Json) : Except Error Image :=
  match j with
  | .string _ => (bytes j).map .bytes
  | _ =>
    match integer j with
    | .ok n => ((Extent.cells n).mapError .extent).map .zeros
    | .error _ => do return .bytes (← (← items j).mapM exactByte)

/-- Writes a program image from an origin on. The end of the image is checked first. -/
def load (m : Memory size) (data origin : Json) : Except Error (Memory size) := do
  let image ← image data
  let length : Number := .int image.length
  let start ← number origin
  if (← sum start length).exceeds size then
    throw (outside .memory size (.number (← lastCell start length)))
  checkSpan size origin length
  (m.load image.toList (← integer origin)).mapError .ofFault

/-- The error of a program that was refused. -/
def Error.ofLoadError : Memory.LoadError → Error
  | .notAByte _ => .argument .badValue
  | .fault f => .ofFault f

/-! ### Integers as arguments -/

@[simp] theorem sum_int (a b : Int) : sum (.int a) (.int b) = .ok (.int (a + b)) := rfl

/-- The check of a span that is given in integers is the check of memory. -/
theorem checkSpan_int (address count : Int) :
    checkSpan size (.int address) (.int count) =
      (Memory.checkSpan size address count).mapError .ofFault := by
  have outsideAt (n : Int) :
      outside .memory size (.number (.int n)) = .ofFault (Memory.outside size n) := outside_int ..
  unfold checkSpan Memory.checkSpan
  rw [Number.exceeds_int, number_int]
  by_cases positive : 0 < count
  · rw [if_pos (decide_eq_true positive), if_neg (Int.not_le.2 positive)]
    simp only [bind, Except.bind, Number.isNegative, Number.reaches, lastCell, sum_int,
      Bool.or_eq_true, decide_eq_true_eq]
    by_cases first : address < 0 ∨ size ≤ address
    · rw [if_pos first, if_pos first]
      exact congrArg Except.error (outsideAt address)
    · rw [if_neg first, if_neg first]
      by_cases last : size < address + count
      · rw [if_pos last]
        have reached : (size : Int) ≤ address + count + -1 := by omega
        simp only [pure, Except.pure, reached, if_true]
        exact congrArg Except.error (outsideAt _)
      · rw [if_neg last]
        have notReached : ¬(size : Int) ≤ address + count + -1 := by omega
        simp only [pure, Except.pure, notReached, if_false]
        rfl
  · rw [if_neg (by simpa using positive), if_pos (Int.not_lt.1 positive)]
    rfl

/-- A check that is made twice is made once. -/
theorem check_again {α : Type} (check : Except Fault Unit) (next : Unit → Except Fault α) :
    (do check.mapError Error.ofFault; (check >>= next).mapError Error.ofFault) =
      (check >>= next).mapError Error.ofFault := by
  cases check with
  | error f => rfl
  | ok _ => rfl

theorem readByte_int (m : Memory size) (address : Int) :
    readByte m (.int address) = (m.readByte address).mapError .ofFault := by
  unfold readByte
  rw [checkSpan_int]
  exact check_again ..

theorem readWord_int (m : Memory size) (address : Int) :
    readWord m (.int address) = (m.readWord address).mapError .ofFault := by
  unfold readWord
  rw [checkSpan_int]
  exact check_again ..

theorem readBytes_int (m : Memory size) (address count : Int) :
    readBytes m (.int address) (.int count) = (m.readBytes address count).mapError .ofFault := by
  unfold readBytes
  rw [number_int]
  show (do checkSpan size (.int address) (.int count); _) = _
  rw [checkSpan_int]
  exact check_again ..

theorem writeByte_int (m : Memory size) (address value : Int) :
    writeByte m (.int address) (.int value) =
      (m.writeByte address (Byte.ofInt value)).mapError .ofFault := by
  unfold writeByte
  rw [checkSpan_int]
  exact check_again ..

theorem write_int (m : Memory size) (address : Int) (bytes : List Byte) :
    write m (.int address) bytes = (m.writeBytes address bytes).mapError .ofFault := by
  unfold write
  rw [checkSpan_int]
  exact check_again ..

theorem mapM_whole_int (values : List Int) : (values.map Json.int).mapM whole = .ok values := by
  induction values with
  | nil => rfl
  | cons v vs ih =>
    rw [List.map_cons, List.mapM_cons, ih]
    rfl

theorem writeBytes_int (m : Memory size) (address : Int) (values : List Int) :
    writeBytes m (.int address) (.array (values.map .int)) =
      (m.writeBytes address (values.map Byte.ofInt)).mapError .ofFault := by
  have isItems : items (.array (values.map .int)) = .ok (values.map .int) := rfl
  unfold writeBytes
  rw [isItems]
  show (do let values ← (values.map Json.int).mapM whole; _) = _
  rw [mapM_whole_int]
  exact write_int ..

theorem mapM_exactByte_int (values : List Int) :
    (values.map Json.int).mapM exactByte = (Memory.image values).mapError .ofLoadError := by
  induction values with
  | nil => rfl
  | cons v vs ih =>
    rw [List.map_cons, List.mapM_cons, ih, Memory.image, Memory.image, Memory.stray?, Memory.stray?,
      List.find?_cons]
    by_cases byte : 0 ≤ v ∧ v ≤ 255
    · have first : exactByte (.int v) = .ok (Byte.ofInt v) := if_pos byte
      have bounds : decide (v < 0 ∨ 255 < v) = false := decide_eq_false (by omega)
      rw [first, bounds]
      cases vs.find? fun v ↦ v < 0 ∨ 255 < v with
      | none => rfl
      | some w => rfl
    · have first : exactByte (.int v) = .error (.argument .badValue) := if_neg byte
      have bounds : decide (v < 0 ∨ 255 < v) = true := decide_eq_true (by omega)
      rw [first, bounds]
      rfl

theorem load_int (m : Memory size) (values : List Int) (origin : Int) :
    load m (.array (values.map .int)) (.int origin) =
      (m.loadValues values origin).mapError .ofLoadError := by
  have isImage : image (.array (values.map .int)) =
      ((values.map Json.int).mapM exactByte).map .bytes := by
    show (do return Image.bytes (← (values.map Json.int).mapM exactByte)) = _
    cases (values.map Json.int).mapM exactByte with
    | error e => rfl
    | ok bs => rfl
  have outsideAt (n : Int) :
      outside .memory size (.number (.int n)) = .ofFault (Memory.outside size n) := outside_int ..
  unfold load Memory.loadValues
  rw [isImage, mapM_exactByte_int, number_int]
  cases Memory.image values with
  | error e => rfl
  | ok bytes =>
    show (do
      if Number.exceeds size (.int (origin + bytes.length)) then
        throw (outside .memory size (.number (.int (origin + bytes.length + -1))))
      checkSpan size (.int origin) (.int bytes.length)
      (m.load bytes origin).mapError .ofFault : Except Error (Memory size)) =
        ((m.load bytes origin).mapError Memory.LoadError.fault).mapError .ofLoadError
    rw [Number.exceeds_int, checkSpan_int, outsideAt]
    unfold Memory.load
    by_cases late : size < origin + bytes.length
    · rw [if_pos late, decide_eq_true late]
      rfl
    · rw [if_neg late, decide_eq_false late]
      show (do (Memory.checkSpan size origin bytes.length).mapError Error.ofFault; _) = _
      unfold Memory.writeBytes
      cases Memory.checkSpan size origin bytes.length with
      | error f => rfl
      | ok _ => rfl

end Chip8.Host
