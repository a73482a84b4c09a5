import Chip8.Host.Store

/-!
# Stores of given contents

A host may make a store out of bytes instead of a size. The store then has a cell for each byte,
with the font table over its start, but it has no bound that an address could be compared with. So
every request that needs a cell is refused, whatever the address is, and such a store never changes.
Requests that need no cell are answered: an empty span is in order, and a read of a count below one
is the slice that it is in any store (`Contents.readBytes`).
-/

namespace Chip8.Host

/-- The bytes that a store was made of. -/
structure Contents where
  bytes : List Byte

namespace Contents

/-- The contents that an argument lists, a byte in each item. -/
def ofItems (j : Json) : Except Error Contents := do return ⟨← (← items j).mapM exactByte⟩

/-- The cells of a store: the font table, and then what the contents have beyond its length. -/
def memory (c : Contents) : Memory c.bytes.length :=
  ⟨Memory.put (Memory.blank _).cells Font.size (c.bytes.drop Font.size)⟩

/-- A request that needs a cell. -/
def refuse {α : Type} (_ : Contents) : Except Error α := .error .wrongKind

/-- Checks a span. The address is not looked at, since no span that has cells is accepted. -/
def checkSpan (c : Contents) (count : Number) : Except Error Unit :=
  if count.exceeds 0 then c.refuse else .ok ()

/-- Checks a span as a request for nothing but the check. -/
def checkRequest (c : Contents) (count : Json) : Except Error Unit := do
  c.checkSpan (← number count)

/-- The bytes from an address on, for a count that is not above zero. -/
def readBytes (c : Contents) (address count : Json) : Except Error (List Byte) := do
  c.checkRequest count
  Host.readBytes c.memory address count

/-- Writes the bytes congruent to some values. There must be none, and still a place for them. -/
def writeBytes (c : Contents) (address values : Json) : Except Error Unit := do
  let values ← (← items values).mapM whole
  c.checkSpan (.int values.length)
  let _ ← integer address

/-- Writes a program image. Even an empty one has an end to be compared. -/
def load (c : Contents) (data : Json) : Except Error Unit := do
  let _ ← image data
  c.refuse

/-! ### What is accepted -/

/-- A span is accepted exactly if it has no cells. -/
theorem checkSpan_int_eq_ok_iff (c : Contents) (count : Int) :
    c.checkSpan (.int count) = .ok () ↔ count ≤ 0 := by
  unfold checkSpan refuse
  rw [Number.exceeds_int]
  by_cases h : 0 < count
  · simp [h, Int.not_le.2 h]
  · simp [h, Int.not_lt.1 h]

/-- Behind the font table a store has the bytes that it was made of. -/
theorem getElem?_memory (c : Contents) {i : Nat} (h : Font.size ≤ i) (bound : i < c.bytes.length) :
    c.memory.cells[i]? = c.bytes[i]? := by
  obtain ⟨k, rfl⟩ := Nat.exists_eq_add_of_le h
  have k_lt : k < (c.bytes.drop Font.size).length := by
    rw [List.length_drop]
    omega
  have fits : Font.size + (c.bytes.drop Font.size).length ≤ max c.bytes.length Font.size := by
    rw [List.length_drop]
    omega
  unfold memory
  rw [Memory.getElem?_put_add _ _ k_lt fits, List.getElem_drop, List.getElem?_eq_getElem bound]

end Contents

end Chip8.Host
