import Chip8.Machine.Memory

/-!
# Reading memory

What a read answers at any integer as its address, and for any integer as its count. A byte and a
word are answered exactly if their cells have addresses (`Memory.readByte_eq_ok_iff`,
`Memory.readWord_eq_ok_iff`), and what is refused is refused with an address that is none.

For several bytes this holds only as long as some are asked for. A count below one is not checked,
and the answer is a slice, whose bounds below zero are positions from the end. That makes no
difference unless the span begins at an address and ends below zero: such a read goes on to as many
cells before the end of memory (`Memory.Wraps`) instead of being empty. The main result,
`Memory.bytes_of_readBytes`, says what every read answers; it is the one place where the bound of a
slice matters.
-/

namespace Chip8.Memory

variable {size : Nat} {m : Memory size} {address count : Int}

/-! ### What is refused -/

/-- A span that needs cells and does not lie within memory is refused, and the fault names an index
that is no address. -/
theorem exists_outside_of_checkSpan (touches : 0 < count)
    (beyond : ¬(0 ≤ address ∧ address + count ≤ size)) :
    ∃ i : Int, ¬(0 ≤ i ∧ i < size) ∧
      checkSpan size address count = .error (.outOfRange .memory i (size - 1)) := by
  unfold checkSpan
  rw [if_neg (by omega)]
  split
  · exact ⟨address, by omega, rfl⟩
  · rw [if_pos (by omega)]
    exact ⟨address + count - 1, by omega, rfl⟩

/-! ### Bytes and words -/

/-- A byte is answered exactly at an address, and it is the one in the cell there. -/
theorem readByte_eq_ok_iff {b : Byte} :
    m.readByte address = .ok b ↔ (0 ≤ address ∧ address < size) ∧ m.cell address.toNat = b := by
  constructor
  · intro h
    obtain ⟨_, span, read⟩ := Fault.exists_of_bind_eq_ok h
    rw [checkSpan_eq_ok_iff] at span
    exact ⟨by omega, Except.ok.inj read⟩
  · rintro ⟨within, rfl⟩
    have span : checkSpan size address 1 = .ok () := checkSpan_ok (by omega)
    rw [readByte, span]
    rfl

/-- A word is answered exactly at an address with another one after it, and consists of the two
bytes there. -/
theorem readWord_eq_ok_iff {w : Word} :
    m.readWord address = .ok w ↔ (0 ≤ address ∧ address + 1 < size) ∧
      ∃ high low, m.readByte address = .ok high ∧ m.readByte (address + 1) = .ok low ∧
        w.toNat = 256 * high.toNat + low.toNat := by
  have next (within : 0 ≤ address) : (address + 1).toNat = address.toNat + 1 := by omega
  constructor
  · intro h
    obtain ⟨_, span, read⟩ := Fault.exists_of_bind_eq_ok h
    rw [checkSpan_eq_ok_iff] at span
    cases read
    refine ⟨by omega, _, _, readByte_eq_ok_iff.2 ⟨by omega, rfl⟩,
      readByte_eq_ok_iff.2 ⟨by omega, rfl⟩, ?_⟩
    rw [Word.toNat_ofBytes, next (by omega)]
  · rintro ⟨within, high, low, first, second, value⟩
    rw [← Word.toNat_ofBytes] at value
    obtain ⟨-, rfl⟩ := readByte_eq_ok_iff.1 first
    obtain ⟨-, rfl⟩ := readByte_eq_ok_iff.1 second
    have span : checkSpan size address 2 = .ok () := checkSpan_ok (by omega)
    rw [readWord, span, BitVec.eq_of_toNat_eq value, next within.1]
    rfl

/-! ### Several bytes -/

/-- The `k`-th of some bytes is what a read answers `k` cells after an address. -/
def Holds (m : Memory size) (address : Int) (bytes : List Byte) : Prop :=
  ∀ (k : Nat) b, bytes[k]? = some b → m.readByte (address + k) = .ok b

theorem holds_nil : m.Holds address [] := by
  intro k b h
  rw [List.getElem?_nil] at h
  cases h

/-- Cells that have addresses hold what is in them. -/
theorem holds_cells {i n : Nat} (within : i + n ≤ size) :
    m.Holds i ((List.range n).map fun d ↦ m.cell (i + d)) := by
  intro k b h
  rw [List.getElem?_map, Option.map_eq_some_iff] at h
  obtain ⟨d, inside, rfl⟩ := h
  obtain ⟨below, rfl⟩ := List.getElem?_eq_some_iff.1 inside
  rw [List.length_range] at below
  rw [List.getElem_range, readByte_eq_ok_iff]
  exact ⟨by omega, rfl⟩

/-- Bytes that are held are determined by their number. -/
theorem Holds.eq {bytes bytes' : List Byte} (h : m.Holds address bytes)
    (h' : m.Holds address bytes') (length : bytes.length = bytes'.length) : bytes = bytes' := by
  refine List.ext_getElem length fun k below below' ↦ ?_
  have first := h k _ (List.getElem?_eq_getElem below)
  rw [h' k _ (List.getElem?_eq_getElem below')] at first
  exact (Except.ok.inj first).symm

/-- A span that lies within memory is read. -/
theorem exists_readBytes_of_within (nonneg : 0 ≤ count) (first : 0 ≤ address)
    (last : address + count ≤ size) :
    ∃ bytes, m.readBytes address count = .ok bytes ∧ bytes.length = count ∧
      m.Holds address bytes := by
  obtain ⟨i, rfl⟩ := Int.eq_ofNat_of_zero_le first
  obtain ⟨n, rfl⟩ := Int.eq_ofNat_of_zero_le nonneg
  refine ⟨_, readBytes_eq_ok_iff.2 ⟨.inr (by omega), rfl⟩, ?_, holds_cells (by omega)⟩
  rw [List.length_map, List.length_range]

/-- **A read of some bytes.** It is answered exactly if the span lies within memory, with its bytes
and no others. -/
theorem readBytes_eq_ok_iff_holds {bytes : List Byte} (pos : 0 < count) :
    m.readBytes address count = .ok bytes ↔
      (0 ≤ address ∧ address + count ≤ size) ∧ bytes.length = count ∧ m.Holds address bytes := by
  constructor
  · intro h
    obtain ⟨_, span, -⟩ := Fault.exists_of_bind_eq_ok h
    rw [checkSpan_eq_ok_iff] at span
    have within : 0 ≤ address ∧ address + count ≤ size := by omega
    obtain ⟨bytes', read, facts⟩ :=
      exists_readBytes_of_within (m := m) (Int.le_of_lt pos) within.1 within.2
    rw [h] at read
    cases read
    exact ⟨within, facts⟩
  · rintro ⟨within, length, held⟩
    obtain ⟨bytes', read, length', held'⟩ :=
      exists_readBytes_of_within (m := m) (Int.le_of_lt pos) within.1 within.2
    rw [read, held'.eq held (by omega)]

/-! ### A count below one -/

/-- Whether a span begins at an address and ends below zero, but not as far below as memory is
long. -/
def Wraps (size : Nat) (address count : Int) : Prop :=
  0 ≤ address ∧ address + count < 0 ∧ 0 < size + count

instance : Decidable (Wraps size address count) := inferInstanceAs (Decidable (_ ∧ _))

/-- The slice of a span that wraps begins at its address and leaves out as many cells as the count
says. -/
theorem slice_of_wraps (large : Font.size ≤ size) (wraps : Wraps size address count) :
    m.slice address (address + count) =
      (List.range (size + count).toNat).map fun d ↦ m.cell (address.toNat + d) := by
  obtain ⟨first, last, long⟩ := wraps
  have cells : max size Font.size = size := Nat.max_eq_left large
  have start : min address.toNat size = address.toNat := by omega
  have length : (size + (address + count)).toNat - address.toNat = (size + count).toNat := by omega
  rw [slice, slicePosition, slicePosition, cells, if_neg (by omega), if_pos last, start, length,
    List.range'_eq_map_range, List.map_map]
  rfl

/-- Any other slice of a span without cells is empty. -/
theorem slice_of_not_wraps (large : Font.size ≤ size) (nonpos : count ≤ 0)
    (wraps : ¬Wraps size address count) : m.slice address (address + count) = [] := by
  have cells : max size Font.size = size := Nat.max_eq_left large
  unfold Wraps at wraps
  have empty : slicePosition size (address + count) - slicePosition size address = 0 := by
    unfold slicePosition
    split
    · split
      · omega
      · omega
    · split
      · omega
      · omega
  rw [slice, cells, empty]
  rfl

/-- A span without cells is answered with the slice that it is. -/
theorem readBytes_of_le_zero (nonpos : count ≤ 0) :
    m.readBytes address count = .ok (m.slice address (address + count)) := by
  have span : checkSpan size address count = .ok () := checkSpan_ok (.inl nonpos)
  rw [readBytes, span]
  rfl

/-- **What a read of several bytes answers**, in a memory that is not smaller than the font. Bytes
that are asked for and do not lie within memory are refused. Every other read is answered, and the
`k`-th byte is what a read of one byte answers `k` cells after the address. There are as many bytes
as were asked for, and none if the count is below one, unless the span wraps: then the count says
how many cells of memory there are too few. -/
theorem bytes_of_readBytes (large : Font.size ≤ size) (m : Memory size) (address count : Int) :
    (0 < count ∧ ¬(0 ≤ address ∧ address + count ≤ size) →
      ∃ i : Int, ¬(0 ≤ i ∧ i < size) ∧
        m.readBytes address count = .error (.outOfRange .memory i (size - 1))) ∧
    (count ≤ 0 ∨ 0 ≤ address ∧ address + count ≤ size →
      ∃ bytes, m.readBytes address count = .ok bytes ∧ m.Holds address bytes ∧
        bytes.length = if Wraps size address count then size + count else max count 0) := by
  refine ⟨?refused, ?answered⟩
  case refused =>
    rintro ⟨touches, beyond⟩
    obtain ⟨i, outside, refused⟩ := exists_outside_of_checkSpan touches beyond
    refine ⟨i, outside, ?_⟩
    rw [readBytes, refused]
    rfl
  case answered =>
    intro accepted
    rcases Int.lt_or_le 0 count with pos | nonpos
    · have within : 0 ≤ address ∧ address + count ≤ size := by omega
      have straight : ¬Wraps size address count := fun wraps ↦ by
        have last := wraps.2.1
        omega
      obtain ⟨bytes, read, length, held⟩ :=
        exists_readBytes_of_within (m := m) (Int.le_of_lt pos) within.1 within.2
      rw [if_neg straight, Int.max_eq_left (Int.le_of_lt pos)]
      exact ⟨bytes, read, held, length⟩
    · rw [readBytes_of_le_zero nonpos]
      refine ⟨_, rfl, ?_⟩
      by_cases wraps : Wraps size address count
      · rw [slice_of_wraps large wraps, if_pos wraps]
        obtain ⟨first, last, long⟩ := wraps
        obtain ⟨i, rfl⟩ := Int.eq_ofNat_of_zero_le first
        refine ⟨holds_cells (by omega), ?_⟩
        rw [List.length_map, List.length_range]
        omega
      · rw [slice_of_not_wraps large nonpos wraps, if_neg wraps]
        rw [Int.max_eq_right nonpos]
        exact ⟨holds_nil, rfl⟩

/-- A read that wraps, and one that ends just beyond memory. -/
theorem bytes_of_readBytes_at_bounds :
    (∃ i : Int, ¬(0 ≤ i ∧ i < 80) ∧
      (blank 80).readBytes 79 2 = .error (.outOfRange .memory i 79)) ∧
    ∃ bytes, (blank 80).readBytes 10 (-12) = .ok bytes ∧ (blank 80).Holds 10 bytes ∧
      bytes.length = (68 : Int) := by
  refine ⟨(bytes_of_readBytes (by decide) (blank 80) 79 2).1 (by decide), ?_⟩
  obtain ⟨bytes, read, held, length⟩ :=
    (bytes_of_readBytes (by decide) (blank 80) 10 (-12)).2 (by decide)
  exact ⟨bytes, read, held, length.trans (by decide)⟩

/-- **A read can answer more than it was asked for.** Asked for one byte less than none from the
first address on, a memory answers all its bytes but one, where it should have refused or answered
no byte. -/
theorem readBytes_answers_too_many :
    ¬((∃ f : Fault, f.kind = .outOfRange ∧ (blank 80).readBytes 0 (-1) = .error f) ∨
      ∃ bytes, (blank 80).readBytes 0 (-1) = .ok bytes ∧ bytes.length = max (-1 : Int) 0 ∧
        (blank 80).Holds 0 bytes) := by
  have answer : (blank 80).readBytes 0 (-1) = .ok (Font.table.toList.take 79) := rfl
  rw [answer]
  rintro (⟨f, -, refused⟩ | ⟨bytes, answered, length, -⟩)
  · cases refused
  · cases answered
    exact absurd length (by decide)

end Chip8.Memory
