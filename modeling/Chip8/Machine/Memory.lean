import Chip8.Font
import Chip8.Machine.Access

/-!
# Memory

A store of bytes at the addresses from zero up to its size, with the font table at its start.
Addresses come from instructions and from hosts and may be any integer: every access first checks
the whole span that it touches (`Memory.checkSpan`), so an access that is refused has read and
written nothing (`Memory.run_writing`, `Memory.run_loading`).

A memory smaller than the font table still holds the whole table. Cells beyond the size cannot be
addressed; they show only where all cells are listed and in reads of a count below one, which are
not checked (`Memory.readBytes`).
-/

namespace Chip8

/-- A store with the addresses `0` to `size - 1`. -/
structure Memory (size : Nat) where
  /-- The cells: one for each address, and never fewer than the font table has. -/
  cells : Vector Byte (max size Font.size)
  deriving DecidableEq

namespace Memory

/-- The number of addresses of the machine's memory. -/
abbrev standardSize : Nat := 4096

/-- The highest address of the machine's memory, which is also the mask of its addresses. -/
def addressMask : Nat := standardSize - 1

/-- Where programs start unless the host says otherwise. -/
def programOrigin : Int := 0x200

variable {size : Nat}

/-- Cells with some bytes put in from a position on; bytes beyond the last cell are dropped. -/
def put {n : Nat} (cells : Vector Byte n) (i : Nat) : List Byte → Vector Byte n
  | [] => cells
  | b :: bs => if h : i < n then put (cells.set i b h) (i + 1) bs else cells

/-- The power-on memory: the font table and then zeros. -/
def blank (size : Nat) : Memory size := ⟨put (Vector.replicate _ 0) Font.base Font.table.toList⟩

/-- The fault of an access at `address`. -/
def outside (size : Nat) (address : Int) : Fault := .outOfRange .memory address (size - 1)

/-- Checks that the `count` cells from `address` on can be addressed. The fault names the first cell
if that is outside, else the last one. A count below one needs no cells. -/
def checkSpan (size : Nat) (address count : Int) : Except Fault Unit :=
  if count ≤ 0 then .ok ()
  else if address < 0 ∨ size ≤ address then .error (outside size address)
  else if size < address + count then .error (outside size (address + count - 1))
  else .ok ()

/-- The cell at a position, and zero beyond the last one. -/
def cell (m : Memory size) (i : Nat) : Byte := m.cells[i]?.getD 0

/-- The byte at an address. -/
def readByte (m : Memory size) (address : Int) : Except Fault Byte := do
  checkSpan size address 1
  return m.cell address.toNat

/-- The word at an address: the byte there is the high one, the next byte the low one. -/
def readWord (m : Memory size) (address : Int) : Except Fault Word := do
  checkSpan size address 2
  return Word.ofBytes (m.cell address.toNat) (m.cell (address.toNat + 1))

/-- The position among `length` cells that the bound `i` of a slice means: a negative bound counts
from the end, and every bound is moved to the nearest position that exists. -/
def slicePosition (length : Nat) (i : Int) : Nat :=
  if i < 0 then (length + i).toNat else min i.toNat length

/-- The cells from one bound of a slice up to the other. -/
def slice (m : Memory size) (start stop : Int) : List Byte :=
  let lo := slicePosition (max size Font.size) start
  let hi := slicePosition (max size Font.size) stop
  (List.range' lo (hi - lo)).map m.cell

/-- The `count` bytes from an address on. For a count below one nothing is checked and the answer is
the slice between the two bounds. -/
def readBytes (m : Memory size) (address count : Int) : Except Fault (List Byte) := do
  checkSpan size address count
  return m.slice address (address + count)

/-- Writes some bytes from an address on. -/
def writeBytes (m : Memory size) (address : Int) (bytes : List Byte) :
    Except Fault (Memory size) := do
  checkSpan size address bytes.length
  return ⟨put m.cells address.toNat bytes⟩

/-- Writes one byte. -/
def writeByte (m : Memory size) (address : Int) (b : Byte) : Except Fault (Memory size) :=
  m.writeBytes address [b]

/-- Writes a program image from `origin` on. The image has to end within memory; that is checked
first, and for an empty image too. -/
def load (m : Memory size) (image : List Byte) (origin : Int) : Except Fault (Memory size) :=
  if size < origin + image.length then .error (outside size (origin + image.length - 1))
  else m.writeBytes origin image

/-- Why a program given as a list of numbers was refused. -/
inductive LoadError
  /-- A number of the list is no byte. -/
  | notAByte (value : Int)
  | fault (f : Fault)
  deriving DecidableEq, Repr

/-- The first number of a list that is no byte. -/
def stray? (values : List Int) : Option Int := values.find? fun v ↦ v < 0 ∨ 255 < v

/-- The bytes that a list of numbers denotes, if all of them are in the range of a byte. -/
def image (values : List Int) : Except LoadError (List Byte) :=
  match stray? values with
  | some v => .error (.notAByte v)
  | none => .ok (values.map Byte.ofInt)

/-- Writes a program given as a list of numbers; the numbers are checked before the place. -/
def loadValues (m : Memory size) (values : List Int) (origin : Int) :
    Except LoadError (Memory size) := do
  let bytes ← image values
  (m.load bytes origin).mapError .fault

/-! ### Writing step by step -/

/-- Writes some bytes from an address on. The whole span is checked before the first of them. -/
def writing (address : Int) (bytes : List Byte) : Access Fault (Memory size) Unit := do
  Access.check (checkSpan size address bytes.length)
  Access.change fun m ↦ ⟨put m.cells address.toNat bytes⟩

/-- Writes a program image from `origin` on. -/
def loading (image : List Byte) (origin : Int) : Access Fault (Memory size) Unit := do
  if size < origin + image.length then throw (outside size (origin + image.length - 1))
  writing origin image

/-- Writes a program given as a list of numbers. -/
def loadingValues (values : List Int) (origin : Int) : Access LoadError (Memory size) Unit := do
  let bytes ← Access.check (image values)
  EStateM.adaptExcept .fault (loading bytes origin)

/-- **A refused write has written nothing.** -/
theorem run_writing (m : Memory size) (address : Int) (bytes : List Byte) :
    (writing address bytes).run m = Access.ending m ((m.writeBytes address bytes).map ((), ·)) := by
  simp only [writing, writeBytes, EStateM.run_bind]
  cases checkSpan size address bytes.length with
  | ok _ => rfl
  | error f => rfl

/-- **A program that does not fit has not been begun.** -/
theorem run_loading (m : Memory size) (image : List Byte) (origin : Int) :
    (loading image origin).run m = Access.ending m ((m.load image origin).map ((), ·)) := by
  rw [loading, load]
  by_cases late : (size : Int) < origin + image.length
  · rw [if_pos late, if_pos late]
    rfl
  · rw [if_neg late, if_neg late]
    exact m.run_writing origin image

/-- Nor has one that is not made of bytes. -/
theorem run_loadingValues (m : Memory size) (values : List Int) (origin : Int) :
    (loadingValues values origin).run m =
      Access.ending m ((m.loadValues values origin).map ((), ·)) := by
  simp only [loadingValues, loadValues, EStateM.run_bind]
  cases image values with
  | error e => rfl
  | ok bytes =>
    refine (Access.run_adaptExcept LoadError.fault (m.run_loading bytes origin)).trans ?_
    show _ = Access.ending m (((m.load bytes origin).mapError LoadError.fault).map ((), ·))
    cases m.load bytes origin with
    | error f => rfl
    | ok t => rfl

theorem clean_writing (address : Int) (bytes : List Byte) :
    (writing address bytes : Access Fault (Memory size) Unit).Clean :=
  .of_ending fun m ↦ m.run_writing address bytes

theorem clean_loadingValues (values : List Int) (origin : Int) :
    (loadingValues values origin : Access LoadError (Memory size) Unit).Clean :=
  .of_ending fun m ↦ m.run_loadingValues values origin

/-! ### Spans -/

/-- A span is accepted exactly if it is empty or lies between zero and the size. -/
theorem checkSpan_eq_ok_iff {address count : Int} :
    checkSpan size address count = .ok () ↔ count ≤ 0 ∨ 0 ≤ address ∧ address + count ≤ size := by
  unfold checkSpan
  split
  · simp_all
  · split
    · simp only [reduceCtorEq, false_iff]
      omega
    · split
      · simp only [reduceCtorEq, false_iff]
        omega
      · simp only [true_iff]
        omega

/-- The only answer of a check is that there is nothing to say. -/
theorem checkSpan_ok {address count : Int} (h : count ≤ 0 ∨ 0 ≤ address ∧ address + count ≤ size) :
    checkSpan size address count = .ok () := checkSpan_eq_ok_iff.2 h

/-! ### Bytes that are read -/

/-- The slice of some cells that there are lists them, and a slice of no cells is empty. -/
theorem slice_of_within (m : Memory size) {i k : Nat} (h : k = 0 ∨ i + k ≤ size) :
    m.slice i (i + k) = (List.range k).map fun d ↦ m.cell (i + d) := by
  have start : ¬(i : Int) < 0 := by omega
  have stop : ¬(i + k : Int) < 0 := by omega
  have length : min (i + k : Int).toNat (max size Font.size) -
      min (i : Int).toNat (max size Font.size) = k := by omega
  rw [slice, slicePosition, slicePosition, if_neg start, if_neg stop, length,
    List.range'_eq_map_range, List.map_map]
  rcases h with rfl | within
  · rfl
  · have first : min (i : Int).toNat (max size Font.size) = i := by omega
    rw [first]
    rfl

/-- **What a read answers** at an address that is not negative. It is answered if it asks for no
bytes or ends within memory, and then it lists the cells. -/
theorem readBytes_eq_ok_iff {m : Memory size} {i k : Nat} {bytes : List Byte} :
    m.readBytes i k = .ok bytes ↔
      (k = 0 ∨ i + k ≤ size) ∧ (List.range k).map (fun d ↦ m.cell (i + d)) = bytes := by
  constructor
  · intro h
    obtain ⟨_, span, read⟩ := Fault.exists_of_bind_eq_ok h
    rw [checkSpan_eq_ok_iff] at span
    have within : k = 0 ∨ i + k ≤ size := by omega
    rw [slice_of_within m within] at read
    exact ⟨within, Except.ok.inj read⟩
  · rintro ⟨within, rfl⟩
    have span : checkSpan size i k = .ok () := checkSpan_ok (by omega)
    rw [readBytes, span, ← slice_of_within m within]
    rfl

/-! ### Cells after a write -/

/-- Putting bytes leaves the cells before the first and after the last of them alone. -/
theorem getElem?_put_of_outside {n : Nat} (cells : Vector Byte n) {i j : Nat} (bytes : List Byte)
    (h : j < i ∨ i + bytes.length ≤ j) : (put cells i bytes)[j]? = cells[j]? := by
  induction bytes generalizing cells i with
  | nil => rfl
  | cons b bs ih =>
    simp only [put]
    split
    · rw [ih _ (by simp only [List.length_cons] at h; omega), Vector.getElem?_set_ne]
      simp only [List.length_cons] at h
      omega
    · rfl

/-- Putting bytes puts the `k`-th of them `k` cells after the first. -/
theorem getElem?_put_add {n : Nat} (cells : Vector Byte n) {i k : Nat} (bytes : List Byte)
    (hk : k < bytes.length) (hn : i + bytes.length ≤ n) :
    (put cells i bytes)[i + k]? = some bytes[k] := by
  induction bytes generalizing cells i k with
  | nil => simp at hk
  | cons b bs ih =>
    simp only [List.length_cons] at hk hn
    simp only [put]
    rw [dif_pos (by omega)]
    cases k with
    | zero =>
      rw [getElem?_put_of_outside _ _ (Or.inl (by omega))]
      simp
    | succ k =>
      rw [show i + (k + 1) = i + 1 + k by omega]
      exact ih _ (by omega) (by omega)

end Memory

end Chip8
