import Chip8.Proofs.History
import Chip8.Proofs.Reading

/-!
# Memory as a bounded store

Memory of any size is asked to reset, to write one byte or several and to load programs, in any
order, at any integers and with any integers as values. This module says what it accepts and what
can be read from it afterwards.

* A request is accepted exactly if each of its values has an address, and a program must also
  consist of bytes and end with the memory (`Memory.Request.Accepted`). Both are said by the values
  and where they go, and do not look at what memory checks. What is refused leaves every cell as it
  is.
* A cell that has an address holds what the latest accepted request that covers it put there since
  the last reset, or else what it held at power-on (`Memory.Request.tells`).

A memory smaller than the font holds the whole font, but nothing can be written to the cells beyond
its size and none of them can be read. The main result is `Memory.store_of_requests`. Its step is
`Memory.cell_step`, and the run is that of any history.
-/

namespace Chip8.Memory

/-- A request that may change a memory. -/
inductive Request
  | reset
  | writeByte (address value : Int)
  | writeBytes (address : Int) (values : List Int)
  | load (origin : Int) (values : List Int)
  deriving DecidableEq, Repr

/-- The byte at an address of a memory that was just reset: the font, and then zeros. -/
def powerOn (a : Nat) : Byte := Font.table[a]?.getD 0

namespace Request

/-- The address that a request begins to write at. -/
def start : Request → Int
  | reset => 0
  | writeByte address _ => address
  | writeBytes address _ => address
  | load origin _ => origin

/-- The values that a request writes, one address after the other. -/
def values : Request → List Int
  | reset => []
  | writeByte _ value => [value]
  | writeBytes _ values => values
  | load _ values => values

/-- Whether a request loads a program. -/
def isLoad : Request → Bool
  | load .. => true
  | _ => false

/-- Whether a program consists of bytes. The values of other requests are reduced to bytes. -/
def Exact (r : Request) : Prop := r.isLoad = true → ∀ v ∈ r.values, 0 ≤ v ∧ v ≤ 255

/-- Whether each value of a request has an address. A program must also end with the memory, which
says something only of one that is empty. -/
def Fits (size : Nat) (r : Request) : Prop :=
  (∀ k < r.values.length, 0 ≤ r.start + k ∧ r.start + k < size) ∧
    (r.isLoad = true → r.start + r.values.length ≤ size)

/-- Whether a request is in order. -/
def Accepted (size : Nat) (r : Request) : Prop := r.Exact ∧ r.Fits size

instance (r : Request) : Decidable r.Exact := inferInstanceAs (Decidable (_ → _))

instance (size : Nat) (r : Request) : Decidable (r.Fits size) :=
  inferInstanceAs (Decidable (_ ∧ _))

instance (size : Nat) (r : Request) : Decidable (r.Accepted size) :=
  inferInstanceAs (Decidable (_ ∧ _))

/-- The byte that a request writes to an address, if it covers it. -/
def byteAt? (r : Request) (a : Nat) : Option Byte :=
  if r.start ≤ a then r.values[(a - r.start).toNat]?.map Byte.ofInt else none

/-- What a request tells of the byte at an address: a reset puts it back, and an accepted request
replaces it if it covers it. -/
def tells (size a : Nat) (r : Request) : Option Byte :=
  if r = reset then some (powerOn a) else if r.Accepted size then r.byteAt? a else none

end Request

variable {size : Nat} {m : Memory size} {r : Request}

/-- What is done for a request. -/
def request : Request → Access LoadError (Memory size) Unit
  | .reset => Access.change fun _ ↦ blank size
  | .writeByte address value => EStateM.adaptExcept .fault (writing address [Byte.ofInt value])
  | .writeBytes address values =>
    EStateM.adaptExcept .fault (writing address (values.map Byte.ofInt))
  | .load origin values => loadingValues values origin

/-- What a request leaves, or why it is refused. -/
def perform (m : Memory size) (r : Request) : Except LoadError (Memory size) :=
  History.performed request m r

/-- The memory after some requests. -/
def after (m : Memory size) (rs : List Request) : Memory size := History.run request m rs

/-! ### What is refused -/

/-- **Wherever a request is refused, nothing has been written.** -/
theorem clean_request (r : Request) :
    (request r : Access LoadError (Memory size) Unit).Clean := by
  cases r with
  | reset => exact Access.clean_change _
  | writeByte address value => exact (clean_writing address _).adaptExcept _
  | writeBytes address values => exact (clean_writing address _).adaptExcept _
  | load origin values => exact clean_loadingValues values origin

/-- A write of bytes is the write of memory. -/
theorem outcome_writing (m : Memory size) (address : Int) (bytes : List Byte) :
    (Access.outcome ((EStateM.adaptExcept LoadError.fault (writing address bytes)).run m)).map
      Prod.snd = (m.writeBytes address bytes).mapError .fault := by
  rw [Access.run_adaptExcept _ (m.run_writing address bytes), Access.outcome_ending]
  cases m.writeBytes address bytes with
  | ok t => rfl
  | error f => rfl

theorem perform_load (m : Memory size) (origin : Int) (values : List Int) :
    m.perform (.load origin values) = m.loadValues values origin := by
  rw [perform, History.performed, request, run_loadingValues, Access.outcome_ending]
  cases m.loadValues values origin with
  | ok t => rfl
  | error e => rfl

/-- Places that all have addresses, one after the other. -/
theorem forall_address_iff {start : Int} {n : Nat} :
    (∀ k < n, 0 ≤ start + k ∧ start + k < size) ↔ n = 0 ∨ 0 ≤ start ∧ start + n ≤ size := by
  constructor
  · intro each
    rcases n with - | n
    · exact .inl rfl
    · have first := each 0 (Nat.succ_pos n)
      have last := each n (Nat.lt_succ_self n)
      omega
  · intro within k below
    omega

theorem writeBytes_of_within {start : Int} {bytes : List Byte}
    (each : ∀ k < bytes.length, 0 ≤ start + k ∧ start + k < size) :
    m.writeBytes start bytes = .ok ⟨put m.cells start.toNat bytes⟩ := by
  have within := forall_address_iff.1 each
  have span : checkSpan size start bytes.length = .ok () := checkSpan_ok (by omega)
  rw [writeBytes, span]
  rfl

theorem exists_writeBytes_eq_error {start : Int} {bytes : List Byte}
    (beyond : ¬∀ k < bytes.length, 0 ≤ start + k ∧ start + k < size) :
    ∃ i : Int, ¬(0 ≤ i ∧ i < size) ∧
      m.writeBytes start bytes = .error (.outOfRange .memory i (size - 1)) := by
  rw [forall_address_iff] at beyond
  obtain ⟨i, outside, refused⟩ : ∃ i : Int, ¬(0 ≤ i ∧ i < size) ∧
      checkSpan size start bytes.length = .error (.outOfRange .memory i (size - 1)) :=
    exists_outside_of_checkSpan (by omega) (by omega)
  refine ⟨i, outside, ?_⟩
  rw [writeBytes, refused]
  rfl

theorem image_of_exact {values : List Int} (isExact : ∀ v ∈ values, 0 ≤ v ∧ v ≤ 255) :
    image values = .ok (values.map Byte.ofInt) := by
  have found : values.find? (fun v ↦ v < 0 ∨ 255 < v) = none := by
    rw [List.find?_eq_none]
    intro v mem
    have byte := isExact v mem
    simp
    omega
  rw [image, stray?, found]

theorem exists_image_eq_error {values : List Int} (inexact : ¬∀ v ∈ values, 0 ≤ v ∧ v ≤ 255) :
    ∃ v, image values = .error (.notAByte v) := by
  rcases found : values.find? (fun v ↦ v < 0 ∨ 255 < v) with - | v
  · refine absurd (fun v mem ↦ ?_) inexact
    have byte := List.find?_eq_none.1 found v mem
    simp at byte
    omega
  · exact ⟨v, by rw [image, stray?, found]⟩

/-- **A program that is not made of bytes is refused** before anything else. -/
theorem exists_perform_eq_notAByte (inexact : ¬r.Exact) :
    ∃ v, m.perform r = .error (.notAByte v) := by
  cases r with
  | load origin values =>
    obtain ⟨v, refused⟩ : ∃ v, image values = .error (.notAByte v) :=
      exists_image_eq_error fun isExact ↦ inexact fun _ ↦ isExact
    refine ⟨v, ?_⟩
    rw [perform_load, loadValues, refused]
    rfl
  | _ => exact absurd (fun loads ↦ by cases loads) inexact

/-- What any other request does: the end of a program is checked first, and then all of them are
writes of bytes. -/
theorem perform_of_exact (writes : r ≠ .reset) (isExact : r.Exact) :
    m.perform r =
      (if r.isLoad = true ∧ size < r.start + r.values.length then
        .error (outside size (r.start + r.values.length - 1))
      else m.writeBytes r.start (r.values.map Byte.ofInt)).mapError .fault := by
  cases r with
  | reset => exact absurd rfl writes
  | writeByte address value => exact m.outcome_writing address [Byte.ofInt value]
  | writeBytes address values => exact m.outcome_writing address (values.map Byte.ofInt)
  | load origin values =>
    have bytes : image values = .ok (values.map Byte.ofInt) := image_of_exact (isExact rfl)
    rw [perform_load, loadValues, bytes]
    show (m.load (values.map Byte.ofInt) origin).mapError LoadError.fault = _
    rw [Memory.load, List.length_map]
    by_cases late : (size : Int) < origin + values.length
    · rw [if_pos late]
      exact congrArg (Except.mapError LoadError.fault) (if_pos ⟨rfl, late⟩).symm
    · rw [if_neg late]
      exact congrArg (Except.mapError LoadError.fault) (if_neg fun h ↦ late h.2).symm

/-- **A request that does not fit is refused**, and an index is reported that is no address. -/
theorem exists_perform_eq_fault (isExact : r.Exact) (large : ¬r.Fits size) :
    ∃ i : Int, ¬(0 ≤ i ∧ i < size) ∧
      m.perform r = .error (.fault (.outOfRange .memory i (size - 1))) := by
  have writes : r ≠ .reset := by
    rintro rfl
    exact large ⟨nofun, nofun⟩
  rw [perform_of_exact writes isExact]
  by_cases late : r.isLoad = true ∧ size < r.start + r.values.length
  · rw [if_pos late]
    exact ⟨r.start + r.values.length - 1, by omega, rfl⟩
  · rw [if_neg late]
    have beyond :
        ¬∀ k < (r.values.map Byte.ofInt).length, 0 ≤ r.start + k ∧ r.start + k < size := by
      rw [List.length_map]
      exact fun each ↦ large ⟨each, fun load ↦ Int.not_lt.1 fun ends ↦ late ⟨load, ends⟩⟩
    obtain ⟨i, outside, refused⟩ := exists_writeBytes_eq_error (m := m) beyond
    rw [refused]
    exact ⟨i, outside, rfl⟩

/-- **Any other request is accepted**, and writes its values unless it is a reset. -/
theorem perform_of_accepted (writes : r ≠ .reset) (accepted : r.Accepted size) :
    m.perform r = .ok ⟨put m.cells r.start.toNat (r.values.map Byte.ofInt)⟩ := by
  obtain ⟨isExact, each, ends⟩ := accepted
  have within : ¬(r.isLoad = true ∧ size < r.start + r.values.length) := fun late ↦
    Int.not_lt.2 (ends late.1) late.2
  rw [perform_of_exact writes isExact, if_neg within,
    writeBytes_of_within (by rwa [List.length_map])]
  rfl

/-! ### What a request leaves -/

/-- The cells of a memory that was just reset. -/
theorem cell_blank (size a : Nat) : (blank size).cell a = powerOn a := by
  have fits : 0 + Font.table.toList.length ≤ max size Font.size := by
    rw [Vector.length_toList]
    omega
  rw [cell, powerOn]
  show (put (Vector.replicate _ 0) 0 Font.table.toList)[a]?.getD 0 = _
  rcases Nat.lt_or_ge a Font.size with font | beyond
  · have inside : a < Font.table.toList.length := by rwa [Vector.length_toList]
    have glyphs := getElem?_put_add (Vector.replicate (max size Font.size) 0) _ inside fits
    rw [Nat.zero_add] at glyphs
    rw [glyphs, Vector.getElem?_eq_getElem font]
    rfl
  · rw [getElem?_put_of_outside _ _ (.inr (by rw [Vector.length_toList]; omega)),
      Vector.getElem?_eq_none beyond]
    rcases Nat.lt_or_ge a (max size Font.size) with inside | outside
    · rw [Vector.getElem?_replicate, if_pos inside]
      rfl
    · rw [Vector.getElem?_eq_none outside]

/-- The cells after an accepted write. -/
theorem cell_put {a : Nat} (accepted : r.Accepted size) :
    (⟨put m.cells r.start.toNat (r.values.map Byte.ofInt)⟩ : Memory size).cell a =
      (r.byteAt? a).getD (m.cell a) := by
  have within := forall_address_iff.1 accepted.2.1
  have length : (r.values.map Byte.ofInt).length = r.values.length := List.length_map ..
  show (put m.cells r.start.toNat (r.values.map Byte.ofInt))[a]?.getD 0 = _
  unfold Request.byteAt?
  by_cases covered : r.start ≤ a ∧ (a - r.start).toNat < r.values.length
  · obtain ⟨from_start, before_end⟩ := covered
    have place : a = r.start.toNat + (a - r.start).toNat := by omega
    have written := getElem?_put_add m.cells (i := r.start.toNat) (k := (a - r.start).toNat)
      (r.values.map Byte.ofInt) (by omega) (by omega)
    rw [← place] at written
    rw [written, if_pos from_start, List.getElem?_eq_getElem before_end, List.getElem_map]
    rfl
  · have kept : (put m.cells r.start.toNat (r.values.map Byte.ofInt))[a]? = m.cells[a]? :=
      getElem?_put_of_outside _ _ (by omega)
    have uncovered : (if r.start ≤ a then r.values[(a - r.start).toNat]?.map Byte.ofInt else none) =
        none := by
      split
      · rw [List.getElem?_eq_none (by omega)]
        rfl
      · rfl
    rw [kept, uncovered]
    rfl

/-- **One request leaves in each cell what it tells of it**, and what it does not tell anything of
is as it was. -/
theorem cell_step (m : Memory size) (a : Nat) (r : Request) :
    (History.step request m r).cell a = (r.tells size a).getD (m.cell a) := by
  unfold Request.tells
  by_cases writes : r = .reset
  · subst writes
    exact cell_blank size a
  · rw [if_neg writes]
    by_cases accepted : r.Accepted size
    · rw [if_pos accepted, History.step_of_performed (perform_of_accepted writes accepted)]
      exact cell_put accepted
    · have refused : ∃ e, m.perform r = .error e := by
        by_cases isExact : r.Exact
        · obtain ⟨i, -, refused⟩ := exists_perform_eq_fault (m := m) isExact
            fun fits ↦ accepted ⟨isExact, fits⟩
          exact ⟨_, refused⟩
        · obtain ⟨v, refused⟩ := exists_perform_eq_notAByte (m := m) isExact
          exact ⟨_, refused⟩
      obtain ⟨e, refused⟩ := refused
      rw [if_neg accepted, History.step_of_refused (clean_request r) refused]
      rfl

/-! ### Any requests -/

/-- The cells after some requests to a memory that was just made. -/
theorem cell_after (size : Nat) (rs : List Request) (a : Nat) :
    ((blank size).after rs).cell a =
      (History.latest? (Request.tells size a) rs).getD (powerOn a) := by
  rw [← cell_blank size a]
  exact History.reading_run_of_tells (fun m : Memory size ↦ m.cell a)
    (fun m r ↦ cell_step m a r) (blank size) rs

/-- **Memory is a bounded store.** Take a memory of any size and any requests to it. A further
request is refused if it loads a program that does not consist of bytes; otherwise it is refused if
it does not fit, with an index that is no address; and a request that is refused leaves everything
as it is. Every other request is accepted. The byte at an address is what the latest accepted
request that covers it put there since the last reset, or else the byte of the font, or zero. Words
and several bytes are read exactly where there are bytes, and consist of them. -/
theorem store_of_requests (size : Nat) (rs : List Request) :
    (∀ r : Request, ¬r.Exact →
      (∃ v, ((blank size).after rs).perform r = .error (.notAByte v)) ∧
        (blank size).after (rs ++ [r]) = (blank size).after rs) ∧
    (∀ r : Request, r.Exact → ¬r.Fits size →
      (∃ i : Int, ¬(0 ≤ i ∧ i < size) ∧
        ((blank size).after rs).perform r = .error (.fault (.outOfRange .memory i (size - 1)))) ∧
        (blank size).after (rs ++ [r]) = (blank size).after rs) ∧
    (∀ r : Request, r.Accepted size → ∃ m, ((blank size).after rs).perform r = .ok m) ∧
    (∀ a < size, ((blank size).after rs).readByte a =
      .ok ((History.latest? (Request.tells size a) rs).getD (powerOn a))) ∧
    (∀ a w, ((blank size).after rs).readWord a = .ok w ↔ (0 ≤ a ∧ a + 1 < size) ∧
      ∃ high low, ((blank size).after rs).readByte a = .ok high ∧
        ((blank size).after rs).readByte (a + 1) = .ok low ∧
        w.toNat = 256 * high.toNat + low.toNat) ∧
    ∀ a n bytes, 0 < n → (((blank size).after rs).readBytes a n = .ok bytes ↔
      (0 ≤ a ∧ a + n ≤ size) ∧ bytes.length = n ∧ ((blank size).after rs).Holds a bytes) := by
  refine ⟨?inexact, ?large, ?accepted, ?byte, ?word, ?bytes⟩
  case inexact =>
    intro r inexact
    obtain ⟨v, refused⟩ := exists_perform_eq_notAByte (m := (blank size).after rs) inexact
    exact ⟨⟨v, refused⟩, History.run_concat_of_refused (clean_request r) refused⟩
  case large =>
    intro r isExact large
    obtain ⟨i, outside, refused⟩ :=
      exists_perform_eq_fault (m := (blank size).after rs) isExact large
    exact ⟨⟨i, outside, refused⟩, History.run_concat_of_refused (clean_request r) refused⟩
  case accepted =>
    intro r accepted
    by_cases writes : r = .reset
    · subst writes
      exact ⟨_, rfl⟩
    · exact ⟨_, perform_of_accepted writes accepted⟩
  case byte =>
    intro a below
    rw [readByte_eq_ok_iff, ← cell_after]
    exact ⟨by omega, rfl⟩
  case word =>
    intro a w
    exact readWord_eq_ok_iff
  case bytes =>
    intro a n bytes pos
    exact readBytes_eq_ok_iff_holds pos

/-- Requests to a memory of four cells. The second to the fourth are refused, and the last writes
nothing. -/
def narrowRequests : List Request :=
  [.writeBytes 1 [0x1AB, -1], .load 5 [], .load 2 [300], .writeByte (-1) 7, .load 2 [1],
    .writeBytes (-3) []]

/-- That memory after those requests: it has two bytes of the font left. -/
theorem store_of_narrowRequests :
    (∃ v, ((blank 4).after narrowRequests).perform (.load 9 [256]) = .error (.notAByte v)) ∧
    (∃ i : Int, ¬(0 ≤ i ∧ i < 4) ∧ ((blank 4).after narrowRequests).perform (.load 5 []) =
      .error (.fault (.outOfRange .memory i 3))) ∧
    (∃ m, ((blank 4).after narrowRequests).perform (.writeBytes (-3) []) = .ok m) ∧
    ((blank 4).after narrowRequests).readByte 0 = .ok 0xF0 ∧
    ((blank 4).after narrowRequests).readByte 1 = .ok 0xAB ∧
    ((blank 4).after narrowRequests).readByte 2 = .ok 0x01 ∧
    ((blank 4).after narrowRequests).readWord 1 = .ok 0xAB01 ∧
    ∀ bytes, ((blank 4).after narrowRequests).readBytes 3 2 ≠ .ok bytes := by
  obtain ⟨inexact, large, accepted, byte, word, bytes⟩ := store_of_requests 4 narrowRequests
  have first := (byte 1 (by decide)).trans (congrArg Except.ok (by decide : _ = (0xAB : Byte)))
  have second := (byte 2 (by decide)).trans (congrArg Except.ok (by decide : _ = (0x01 : Byte)))
  refine ⟨(inexact _ (by decide)).1, (large _ (by decide) (by decide)).1, accepted _ (by decide),
    (byte 0 (by decide)).trans (congrArg Except.ok (by decide)), first, second, ?_, ?_⟩
  · exact (word 1 0xAB01).2 ⟨by decide, 0xAB, 0x01, first, second, by decide⟩
  · intro bs read
    exact absurd ((bytes 3 2 bs (by decide)).1 read).1 (by decide)

end Chip8.Memory
