import Chip8.Machine.Screen
import Mathlib.Algebra.BigOperators.Group.List.Basic
import Mathlib.Data.List.Induction
import Mathlib.Data.Nat.BitIndices
import Mathlib.Data.Nat.Bitwise

/-!
# Renderings of the screen

A host that asks for one pixel after the other sees a picture. It can also have the whole picture at
once: as a grid of truth values, as a text for each row, or as a number for each row. This module
says that all of these are the same picture, on a screen of any shape and with anything on it.

* Whatever is made of each row of the grid has one entry for each row of the screen, from the top
  (`Screen.EachRow`, `Screen.eachRow_map`). So a law about an entry is a law about one row.
* A row as a number is the binary numeral with the row as its digits: the place of a bit is counted
  from the right, and that of a pixel from the left (`Screen.testBit_packRow`). There is no bit
  beyond the row, so the number is below the power of two that belongs to the width
  (`Screen.packRow_lt`), and rows of one width have different numbers (`Screen.eq_of_packRow_eq`).
* The pixels that are lit are as many as the bits that are set (`Screen.litCount_eq`).

The main result is `Screen.same_picture`. The induction is on a row from its right end, where the
packing of a row goes on.
-/

namespace Chip8.Screen

variable {width height : Nat} {s t : Screen width height}

/-! ### A row as a number -/

/-- One pixel more on the right is one digit more. -/
theorem packRow_concat (row : List Bool) (lit : Bool) :
    packRow (row ++ [lit]) = Nat.bit lit (packRow row) := by
  rw [packRow, List.foldl_concat, Nat.bit_val]
  rfl

/-- **The digits of a row** are its pixels, counted from the right. -/
theorem testBit_packRow (row : List Bool) (i : Nat) :
    (packRow row).testBit i = row.reverse[i]?.getD false := by
  induction row using List.reverseRecOn generalizing i with
  | nil => exact Nat.zero_testBit i
  | append_singleton row lit ih =>
    rw [packRow_concat, List.reverse_concat]
    cases i with
    | zero => exact Nat.testBit_bit_zero lit _
    | succ i => rw [Nat.testBit_bit_succ, ih, List.getElem?_cons_succ]

/-- The digit of a pixel that is counted from the left. -/
theorem testBit_packRow_of_lt {row : List Bool} {i : Nat} (inside : i < row.length) :
    (packRow row).testBit (row.length - 1 - i) = row[i]?.getD false := by
  have place : row.length - 1 - i + i + 1 = row.length := by omega
  rw [testBit_packRow, List.getElem?_reverse' place]

theorem packRow_lt (row : List Bool) : packRow row < 2 ^ row.length := by
  refine Nat.lt_pow_two_of_testBit _ fun i beyond ↦ ?_
  rw [testBit_packRow, List.getElem?_eq_none (by rwa [List.length_reverse])]
  rfl

/-- Rows of one width are told apart by their numbers. -/
theorem eq_of_packRow_eq {row other : List Bool} (length : row.length = other.length)
    (same : packRow row = packRow other) : row = other := by
  refine List.ext_getElem length fun i inside within ↦ ?_
  have digit := testBit_packRow_of_lt inside
  rw [same, length, testBit_packRow_of_lt within, List.getElem?_eq_getElem within,
    List.getElem?_eq_getElem inside] at digit
  exact digit.symm

/-- A row has as many lit pixels as its number has bits that are set. -/
theorem length_bitIndices_packRow (row : List Bool) :
    (packRow row).bitIndices.length = row.count true := by
  induction row using List.reverseRecOn with
  | nil => rfl
  | append_singleton row lit ih =>
    rw [packRow_concat, List.count_append, ← ih]
    cases lit with
    | false =>
      rw [Nat.bitIndices_bit_false, List.length_map]
      rfl
    | true =>
      rw [Nat.bitIndices_bit_true, List.length_cons, List.length_map]
      rfl

/-! ### The rows of a screen -/

/-- A list has an entry for each row of a screen, from the top, and each of them is as it should be
there. -/
def EachRow {β : Type} (rows : List β) (P : Fin height → β → Prop) : Prop :=
  rows.length = height ∧ ∀ y : Fin height, ∃ row, rows[y.val]? = some row ∧ P y row

/-- A row of the grid. -/
def line (s : Screen width height) (y : Fin height) : List Bool := (s.pixels.get y).toList

@[simp] theorem length_line (s : Screen width height) (y : Fin height) :
    (s.line y).length = width := Vector.length_toList

theorem getElem?_toLists (s : Screen width height) (y : Fin height) :
    s.toLists[y.val]? = some (s.line y) := by
  rw [toLists, List.getElem?_map, Vector.getElem?_toList, Vector.getElem?_eq_getElem y.isLt]
  rfl

/-- A pixel of a row. -/
theorem getElem?_line (s : Screen width height) (x : Fin width) (y : Fin height) :
    (s.line y)[x.val]? = some (s.lit x y) := by
  rw [line, Vector.getElem?_toList, Vector.getElem?_eq_getElem x.isLt]
  rfl

/-- What is made of each row of the grid is known by what is made of one. -/
theorem eachRow_map {β : Type} {P : Fin height → β → Prop} (f : List Bool → β)
    (each : ∀ y : Fin height, P y (f (s.line y))) : EachRow (s.toLists.map f) P := by
  refine ⟨?_, fun y ↦ ⟨_, ?_, each y⟩⟩
  · rw [List.length_map, toLists, List.length_map, Vector.length_toList]
  · rw [List.getElem?_map, getElem?_toLists]
    rfl

/-- The digit of a pixel. -/
theorem testBit_line (s : Screen width height) (x : Fin width) (y : Fin height) :
    (packRow (s.line y)).testBit (width - 1 - x) = s.lit x y := by
  have inside : x.val < (s.line y).length := by
    rw [length_line]
    exact x.isLt
  have digit := testBit_packRow_of_lt inside
  rwa [length_line, getElem?_line, Option.getD_some] at digit

/-- A row as text, of one character for each pixel. -/
theorem flatMap_character {α : Type} (on off : α) (row : List Bool) :
    (row.flatMap fun lit ↦ if lit then [on] else [off]) =
      row.map fun lit ↦ if lit then on else off := by
  rw [List.map_eq_flatMap]
  refine congrArg (row.flatMap ·) (funext fun lit ↦ ?_)
  cases lit with
  | false => rfl
  | true => rfl

/-! ### Whole screens -/

/-- **As many pixels are lit as bits are set** in all rows together. -/
theorem litCount_eq (s : Screen width height) :
    litCount s.toLists = (s.packedRows.map fun n ↦ n.bitIndices.length).sum := by
  rw [litCount, packedRows, List.map_map, List.count_flatten]
  refine congrArg List.sum (List.map_congr_left fun row _ ↦ ?_)
  exact (length_bitIndices_packRow row).symm

/-- **Screens of one size are told apart by their rows as numbers.** -/
theorem packedRows_eq_iff : s.packedRows = t.packedRows ↔ s.pixels = t.pixels := by
  constructor
  · intro same
    refine Vector.ext fun y inside ↦ Vector.toList_inj.1 ?_
    have rows : s.packedRows[y]? = t.packedRows[y]? := congrArg (·[y]?) same
    rw [packedRows, packedRows, List.getElem?_map, List.getElem?_map,
      getElem?_toLists s ⟨y, inside⟩, getElem?_toLists t ⟨y, inside⟩] at rows
    have length : (s.line ⟨y, inside⟩).length = (t.line ⟨y, inside⟩).length := by
      rw [length_line, length_line]
    exact eq_of_packRow_eq length (Option.some.inj rows)
  · intro same
    rw [packedRows, packedRows, toLists, toLists, same]

/-- **All renderings are the same picture.** Take a screen of any shape with anything on it. Its
rows as numbers are as many as it has rows; each is below the power of two that belongs to the
width, and the bit that is set for a pixel, the leftmost as the most significant one, tells whether
it is lit. Its rows as text, for two characters, have the one or the other at the place of a pixel,
and the grid has the pixel itself. The lit pixels are as many as all bits that are set, and screens
of one size with the same rows as numbers are those with the same pixels. -/
theorem same_picture (s : Screen width height) :
    EachRow s.packedRows (fun (y : Fin height) n ↦ n < 2 ^ width ∧
      ∀ x : Fin width, n.testBit (width - 1 - x) = true ↔ s.get x.val y.val = .ok true) ∧
    (∀ {α : Type} (on off : α), on ≠ off →
      EachRow (s.textRows [on] [off]) fun (y : Fin height) row ↦ row.length = width ∧
        ∀ x : Fin width, (row[x.val]? = some on ↔ s.get x.val y.val = .ok true) ∧
          (row[x.val]? = some off ↔ s.get x.val y.val = .ok false)) ∧
    EachRow s.toLists (fun (y : Fin height) row ↦ row.length = width ∧
      ∀ (x : Fin width) lit, row[x.val]? = some lit ↔ s.get x.val y.val = .ok lit) ∧
    litCount s.toLists = (s.packedRows.map fun n ↦ n.bitIndices.length).sum ∧
    ∀ t : Screen width height, s.packedRows = t.packedRows ↔ s.pixels = t.pixels := by
  refine ⟨?packed, ?text, ?grid, litCount_eq s, fun t ↦ packedRows_eq_iff⟩
  case packed =>
    refine eachRow_map packRow fun y ↦ ⟨?_, fun x ↦ ?_⟩
    · have below := packRow_lt (s.line y)
      rwa [length_line] at below
    · rw [testBit_line, get_val, Except.ok.injEq]
  case text =>
    intro α on off apart
    refine eachRow_map _ fun y ↦ ?_
    rw [flatMap_character]
    refine ⟨by rw [List.length_map, length_line], fun x ↦ ?_⟩
    rw [List.getElem?_map, getElem?_line, get_val]
    rcases s.lit x y with - | -
    · simp [apart.symm]
    · simp [apart]
  case grid =>
    rw [← List.map_id s.toLists]
    refine eachRow_map id fun y ↦ ⟨s.length_line y, fun x lit ↦ ?_⟩
    rw [id, getElem?_line, get_val, Option.some.injEq, Except.ok.injEq]

/-- A screen that is wider than it is high. -/
def wideScreen : Screen 3 2 := ⟨#v[#v[true, false, false], #v[false, true, true]], false⟩

/-- Its second row as text, and the numbers that no other picture of its size has. -/
theorem same_picture_of_wideScreen :
    (∃ row, (wideScreen.textRows ['#'] ['.'])[1]? = some row ∧ row.length = 3 ∧
      row[0]? = some '.' ∧ row[2]? = some '#') ∧
    litCount wideScreen.toLists = 3 ∧
    ∀ t : Screen 3 2, t.packedRows = [4, 3] → t.pixels = wideScreen.pixels := by
  obtain ⟨-, text, -, -, same⟩ := same_picture wideScreen
  obtain ⟨row, second, length, cells⟩ := (text '#' '.' (by decide)).2 1
  refine ⟨⟨row, second, length, (cells 0).2.2 rfl, (cells 2).1.2 rfl⟩, rfl, fun t packed ↦ ?_⟩
  exact ((same t).1 packed.symm).symm

end Chip8.Screen
