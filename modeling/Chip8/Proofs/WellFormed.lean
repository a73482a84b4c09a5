import Chip8.Bare.Machine
import Chip8.Proofs.Reach

/-!
# Plain numbers stay in range

A machine of plain numbers (`Bare.State`) is well-formed if it has as many registers, cells, slots,
pixels and keys as it should, if every number is in its range, and if a register to wait for is
there exactly during a wait (`Bare.State.WellFormed`). Its types say none of this. Here every
operation is shown to keep all of it, also one that is refused half way:
`Bare.State.WellFormed.perform`, and from it `Bare.State.WellFormed.after` for whole sessions.

The argument goes access by access (`Bare.Keeps`), and where an answer matters, by what is known of
it (`Bare.Gives`).

* Most values are reduced where they are written, and stay in range whatever is written
  (`keeps_setV`, `keeps_setPc`, `keeps_push`, `keeps_writeBytes`).
* `writeV` has no mask. The operations on registers bring one of their own. Fetching brings none:
  its values are in range because they are cells (`gives_readBytes`), so the registers owe their
  range to that of the memory.
* Memory keeps its length since the slice that is replaced was checked to lie within it.
* The mode and the register are written one after the other, and in between the two disagree. So a
  wait that starts or ends is looked at as a whole (`Gives.change_change`).
-/

namespace Chip8.Bare

variable {α β : Type} {s : State}

/-! ### Well-formed machines -/

/-- A number that is one of a byte. -/
def IsByte (v : Int) : Prop := 0 ≤ v ∧ v ≤ 0xFF

/-- A number that is one of a word. -/
def IsWord (v : Int) : Prop := 0 ≤ v ∧ v ≤ 0xFFFF

theorem isByte_emod (v : Int) : IsByte (v % 256) := by
  rw [IsByte]
  omega

theorem isWord_emod (v : Int) : IsWord (v % 65536) := by
  rw [IsWord]
  omega

/-- As many zeros as there should be, each in range. -/
theorem fit_zeros (n : Nat) {range : Int → Prop} (zero : range 0) :
    (List.replicate n (0 : Int)).length = n ∧ ∀ v ∈ List.replicate n (0 : Int), range v := by
  refine ⟨List.length_replicate, fun v mem ↦ ?_⟩
  rw [List.eq_of_mem_replicate mem]
  exact zero

/-- The number of a register that is kept in mind, exactly during a wait. -/
def IsWait (mode : Mode) (register : Option Int) : Prop :=
  mode = .running ∧ register = none ∨
    mode = .waitingForKey ∧ ∃ x, register = some x ∧ 0 ≤ x ∧ x < 16

/-- **A machine in which everything has the size and the range that it should have.** -/
structure State.WellFormed (s : State) : Prop where
  registers : s.registers.length = 16 ∧ ∀ v ∈ s.registers, IsByte v
  index : IsWord s.index
  pc : IsWord s.pc
  cells : s.cells.length = 4096 ∧ ∀ b ∈ s.cells, IsByte b
  slots : s.slots.length = 16 ∧ ∀ a ∈ s.slots, IsWord a
  pointer : 0 ≤ s.pointer ∧ s.pointer ≤ 16
  pixels : s.pixels.length = 32 ∧ ∀ row ∈ s.pixels, row.length = 64
  keys : s.keys.length = 16
  /-- The period is positive, and both counters are in the range of a byte. -/
  timers : s.timers.InRange
  wait : IsWait s.mode s.waitRegister

/-! ### Accesses that keep a machine well-formed -/

/-- An access that leaves a well-formed machine well-formed, and whose answer, if it comes to one,
is as it should be. -/
def Gives (a : Action α) (answer : α → Prop) : Prop :=
  ∀ s : State, s.WellFormed →
    match a.run s with
    | .ok v t => t.WellFormed ∧ answer v
    | .error _ t => t.WellFormed

/-- An access that leaves a well-formed machine well-formed. -/
abbrev Keeps (a : Action α) : Prop := Gives a fun _ ↦ True

namespace Gives

variable {Q : α → Prop} {a b : Action α}

theorem pure {v : α} (h : Q v) : Gives (return v) Q := fun _ wf ↦ ⟨wf, h⟩

theorem throw (e : Stop) : Gives (throw e) Q := fun _ wf ↦ wf

/-- One access after the other. -/
theorem bind {R : β → Prop} {k : α → Action β} (first : Gives a Q)
    (next : ∀ v, Q v → Gives (k v) R) : Gives (a >>= k) R := by
  intro s wf
  have done := first s wf
  rw [EStateM.run_bind]
  cases run : a.run s with
  | ok v t =>
    rw [run] at done
    exact next v done.2 t done.1
  | error e t =>
    rw [run] at done
    exact done

theorem ite {c : Prop} [Decidable c] (yes : Gives a Q) (no : Gives b Q) :
    Gives (if c then a else b) Q := by
  split
  · exact yes
  · exact no

/-- What is read is a well-formed machine. -/
theorem part : Gives Access.part State.WellFormed := fun _ wf ↦ ⟨wf, wf⟩

theorem change {f : State → State} (h : ∀ s, s.WellFormed → (f s).WellFormed) :
    Keeps (Access.change f) := fun s wf ↦ ⟨h s wf, trivial⟩

/-- Two parts that have to agree are changed one after the other. -/
theorem change_change {f g : State → State} (h : ∀ s, s.WellFormed → (g (f s)).WellFormed)
    (next : Gives a Q) :
    Gives (do
      Access.change f
      Access.change g
      a) Q :=
  fun s wf ↦ next (g (f s)) (h s wf)

theorem found {o : Option α} (h : ∀ v, o = some v → Q v) : Gives (found o) Q := by
  cases o with
  | none => exact throw _
  | some v => exact pure (h v rfl)

theorem ensure (p : Prop) [Decidable p] (f : Fault) : Gives (ensure p f) fun _ ↦ p := by
  rw [Bare.ensure]
  split
  · next holds => exact pure holds
  · exact throw _

end Gives

theorem keeps_ensure (p : Prop) [Decidable p] (f : Fault) : Keeps (ensure p f) := by
  rw [ensure]
  exact .ite (.pure trivial) (.throw _)

theorem keeps_found (o : Option α) : Keeps (found o) := .found fun _ _ ↦ trivial

/-- **A list keeps its length and its range** when an item in range is set, wherever that is. -/
theorem gives_setItem {xs : List α} {n : Nat} {range : α → Prop} (i : Int) {item : α}
    (fit : xs.length = n ∧ ∀ v ∈ xs, range v) (inside : range item) :
    Gives (found (Sequence.setItem? xs i item)) fun ys ↦ ys.length = n ∧ ∀ v ∈ ys, range v := by
  refine .found fun ys set ↦ ⟨?_, fun v mem ↦ ?_⟩
  · rw [Sequence.length_of_setItem? set]
    exact fit.1
  · rcases Sequence.mem_of_setItem? set mem with before | rfl
    · exact fit.2 v before
    · exact inside

/-! ### Registers -/

theorem keeps_readV (i : Int) : Keeps (readV i) := Gives.part.bind fun _ _ ↦ keeps_found _

/-- To write a register as it is takes a byte. -/
theorem keeps_writeV {i value : Int} (byte : IsByte value) : Keeps (writeV i value) :=
  Gives.part.bind fun _ wf ↦ (gives_setItem i wf.registers byte).bind fun _ fit ↦
    .change fun _ wf ↦ { wf with registers := fit }

/-- To set it does not: the value is reduced. -/
theorem keeps_setV (i value : Int) : Keeps (setV i value) :=
  (Gives.ensure _ _).bind fun _ _ ↦ keeps_writeV (isByte_emod value)

theorem keeps_setFlag (value : Int) : Keeps (setFlag value) := keeps_writeV (isByte_emod value)

theorem keeps_setIndex (value : Int) : Keeps (setIndex value) :=
  .change fun _ wf ↦ { wf with index := isWord_emod value }

theorem keeps_setPc (value : Int) : Keeps (setPc value) :=
  .change fun _ wf ↦ { wf with pc := isWord_emod value }

theorem keeps_advance (amount : Int) : Keeps (advance amount) :=
  Gives.part.bind fun _ _ ↦ keeps_setPc _

/-! ### Call stack -/

/-- A push is refused before the pointer leaves the slots, and the address is reduced. -/
theorem keeps_push (address pc : Int) : Keeps (push address pc) := by
  refine Gives.part.bind fun s wf ↦ (Gives.ensure _ _).bind fun _ room ↦ ?_
  have more : 0 ≤ s.pointer + 1 ∧ s.pointer + 1 ≤ 16 := by
    have bound := wf.pointer
    exact ⟨by omega, room⟩
  refine (gives_setItem s.pointer wf.slots (isWord_emod address)).bind fun slots fit ↦ ?_
  exact .bind (.change fun _ wf ↦ { wf with slots := fit }) fun _ _ ↦
    .change fun _ wf ↦ { wf with pointer := more }

/-- A pop is refused before the pointer falls below zero. -/
theorem keeps_pop (pc : Int) : Keeps (pop pc) := by
  refine Gives.part.bind fun s wf ↦ (Gives.ensure _ _).bind fun _ live ↦ ?_
  have less : 0 ≤ s.pointer - 1 ∧ s.pointer - 1 ≤ 16 := by
    have bound := wf.pointer
    omega
  exact .bind (.change fun _ wf ↦ { wf with pointer := less }) fun _ _ ↦
    Gives.part.bind fun _ _ ↦ keeps_found _

/-! ### Memory -/

theorem gives_checkSpan (address count : Int) :
    Gives (checkSpan address count) fun _ ↦ count ≤ 0 ∨ 0 ≤ address ∧ address + count ≤ 4096 := by
  rw [checkSpan]
  split
  · next checked => exact .pure (Memory.checkSpan_eq_ok_iff.1 checked)
  · exact .throw _

theorem keeps_readWord (address : Int) : Keeps (readWord address) :=
  (gives_checkSpan address 2).bind fun _ _ ↦
    Gives.part.bind fun _ _ ↦ (keeps_found _).bind fun _ _ ↦
      Gives.part.bind fun _ _ ↦ (keeps_found _).bind fun _ _ ↦ .pure trivial

/-- **What is read from memory is made of bytes.** -/
theorem gives_readBytes (address count : Int) :
    Gives (readBytes address count) fun bytes ↦ ∀ b ∈ bytes, IsByte b :=
  (gives_checkSpan address count).bind fun _ _ ↦
    Gives.part.bind fun _ wf ↦ .pure fun b mem ↦ wf.cells.2 b (Sequence.mem_of_mem_slice mem)

/-- **A write keeps the length of memory**: the slice that is replaced lies within it, or is empty
and replaced by nothing. -/
theorem length_cells_of_write {cells payload : List Int} {address : Int}
    (length : cells.length = 4096)
    (span : (payload.length : Int) ≤ 0 ∨ 0 ≤ address ∧ address + payload.length ≤ 4096) :
    (Sequence.setSlice cells address (address + payload.length) payload).length = 4096 := by
  rcases span with none | ⟨start, within⟩
  · have empty : payload = [] := List.eq_nil_of_length_eq_zero (by omega)
    rw [empty, List.length_nil, Int.natCast_zero, Int.add_zero, Sequence.setSlice_self_nil, length]
  · rw [Sequence.length_setSlice start (by omega), length]

theorem keeps_writeBytes (address : Int) (values : List Int) :
    Keeps (writeBytes address values) := by
  refine (gives_checkSpan _ _).bind fun _ span ↦ .change fun s wf ↦ { wf with cells := ⟨?_, ?_⟩ }
  · exact length_cells_of_write wf.cells.1 span
  · intro b mem
    rcases Sequence.mem_of_mem_setSlice mem with before | new
    · exact wf.cells.2 b before
    · obtain ⟨value, -, rfl⟩ := List.mem_map.1 new
      exact isByte_emod value

theorem keeps_load (values : List Int) (origin : Int) : Keeps (load values origin) := by
  rw [load]
  split
  · exact Gives.throw _
  · exact (Gives.ensure _ _).bind fun _ _ ↦ keeps_writeBytes origin values

/-! ### Screen and keypad -/

theorem keeps_checkPixel (x y : Int) : Keeps (checkPixel x y) :=
  (Gives.ensure _ _).bind fun _ _ ↦ keeps_ensure _ _

theorem keeps_readPixel (x y : Int) : Keeps (readPixel x y) :=
  Gives.part.bind fun _ _ ↦ (keeps_found _).bind fun _ _ ↦
    keeps_found _

/-- A pixel that is written changes neither the length of its row nor the number of rows. -/
theorem keeps_writePixel (x y : Int) (lit : Bool) : Keeps (writePixel x y lit) := by
  refine Gives.part.bind fun s wf ↦ ?_
  have read : Gives (found (Sequence.item? s.pixels y)) fun row ↦ row.length = 64 :=
    .found fun row read ↦ wf.pixels.2 row (Sequence.mem_of_item? read)
  refine read.bind fun row width ↦ ?_
  have written : Gives (found (Sequence.setItem? row x lit)) fun row ↦ row.length = 64 :=
    .found fun _ set ↦ (Sequence.length_of_setItem? set).trans width
  exact written.bind fun row width ↦ (gives_setItem y wf.pixels width).bind fun _ fit ↦
    .change fun _ wf ↦ { wf with pixels := fit }

theorem keeps_setDirty (dirty : Bool) : Keeps (setDirty dirty) := .change fun _ wf ↦ { wf with }

theorem keeps_setPixel (x y : Int) (lit : Bool) : Keeps (setPixel x y lit) :=
  (keeps_checkPixel x y).bind fun _ _ ↦
    (keeps_writePixel x y lit).bind fun _ _ ↦ keeps_setDirty true

theorem keeps_flip (x y : Int) : Keeps (flip x y) :=
  (keeps_checkPixel x y).bind fun _ _ ↦ (keeps_readPixel x y).bind fun lit _ ↦
    (keeps_writePixel x y !lit).bind fun _ _ ↦ (keeps_setDirty true).bind fun _ _ ↦ .pure trivial

/-- Darkening keeps the shape of the grid. -/
theorem darken_shape {pixels : List (List Bool)}
    (h : pixels.length = 32 ∧ ∀ row ∈ pixels, row.length = 64) :
    (pixels.map fun row ↦ row.map fun _ ↦ false).length = 32 ∧
      ∀ row ∈ pixels.map fun row ↦ row.map fun _ ↦ false, row.length = 64 := by
  refine ⟨by rw [List.length_map, h.1], fun row mem ↦ ?_⟩
  obtain ⟨before, old, rfl⟩ := List.mem_map.1 mem
  rw [List.length_map, h.2 before old]

theorem keeps_clearScreen : Keeps clearScreen :=
  .bind (.change fun _ wf ↦ { wf with pixels := darken_shape wf.pixels }) fun _ _ ↦
    keeps_setDirty true

theorem keeps_turn (down : Bool) (i : Int) : Keeps (turn down i) := by
  refine (Gives.ensure _ _).bind fun _ _ ↦ Gives.part.bind fun s wf ↦ ?_
  have set : Gives (found (Sequence.setItem? s.keys i down)) fun keys ↦ keys.length = 16 :=
    .found fun _ set ↦ (Sequence.length_of_setItem? set).trans wf.keys
  exact set.bind fun keys fit ↦ .change fun _ wf ↦ { wf with keys := fit }

theorem keeps_isDown (i : Int) : Keeps (isDown i) :=
  (Gives.ensure _ _).bind fun _ _ ↦ Gives.part.bind fun _ _ ↦ keeps_found _

theorem keeps_highest? : Keeps highest? := Gives.part.bind fun _ _ ↦ .pure trivial

/-! ### Timers and random bytes -/

theorem keeps_changeTimers {f : Timers → Timers} (h : ∀ t : Timers, t.InRange → (f t).InRange) :
    Keeps (Access.change fun s ↦ { s with timers := f s.timers }) :=
  .change fun _ wf ↦ { wf with timers := h _ wf.timers }

theorem keeps_passTime {f : Timers → Except Timers.Error (Int × Timers)}
    (h : ∀ t ticks u, Timers.InRange t → f t = .ok (ticks, u) → u.InRange) :
    Keeps (passTime f) := by
  refine Gives.part.bind fun s wf ↦ ?_
  cases passed : f s.timers with
  | error e => exact Gives.throw _
  | ok result =>
    have range := h _ _ _ wf.timers passed
    exact .bind (.change fun _ wf ↦ { wf with timers := range }) fun _ _ ↦ .pure trivial

theorem keeps_drawByte : Keeps drawByte :=
  Gives.part.bind fun _ _ ↦ .bind (.change fun _ wf ↦ { wf with }) fun _ _ ↦ .pure trivial

/-! ### Instructions -/

/-- The registers that a word names are below sixteen. -/
theorem x_ofWord (word : Int) : 0 ≤ (Fields.ofWord word).x ∧ (Fields.ofWord word).x < 16 := by
  show 0 ≤ word / 0x100 % 0x10 ∧ word / 0x100 % 0x10 < 16
  omega

/-- Flags are zero or one. -/
theorem isByte_flag {op : Alu} {a b flag : Int} (h : (operate op a b).2 = some flag) :
    IsByte flag := by
  rw [IsByte]
  cases op with
  | copy | or | and | xor => cases h
  | add | sub | subn =>
    cases h
    rw [flagOf]
    split <;> omega
  | shr | shl =>
    cases h
    omega

/-- An operation on registers writes them without `setV`, and brings its own mask. -/
theorem keeps_arithmetic (op : Alu) (x y : Int) : Keeps (arithmetic op x y) := by
  refine (keeps_readV x).bind fun a _ ↦ (keeps_readV y).bind fun b _ ↦ ?_
  have result : Keeps (do
      writeV x ((operate op a b).1 % 256)
      advance 2) :=
    (keeps_writeV (isByte_emod _)).bind fun _ _ ↦ keeps_advance 2
  cases flag : (operate op a b).2 with
  | none =>
    simp only [flag]
    exact result
  | some value =>
    simp only [flag]
    exact (keeps_writeV (isByte_flag flag)).bind fun _ _ ↦ result

theorem keeps_flipRow (left top row : Int) (cs : List Nat) (erased : Bool) :
    Keeps (flipRow left top row cs erased) := by
  induction cs generalizing erased with
  | nil => exact .pure trivial
  | cons c cs ih => exact .ite ((keeps_flip _ _).bind fun _ _ ↦ ih _) (ih _)

theorem keeps_flipRows (left top : Int) (rows : List Int) (erased : Bool) :
    Keeps (flipRows left top rows erased) := by
  induction rows generalizing top erased with
  | nil => exact .pure trivial
  | cons row rows ih => exact (keeps_flipRow left top row _ erased).bind fun _ _ ↦ ih _ _

theorem keeps_draw (x y n : Int) : Keeps (draw x y n) := by
  have finish : Keeps (do
      setDirty true
      advance 2) :=
    (keeps_setDirty true).bind fun _ _ ↦ keeps_advance 2
  refine (keeps_readV x).bind fun left _ ↦ (keeps_readV y).bind fun top _ ↦ ?_
  refine Gives.part.bind fun s _ ↦ (gives_readBytes s.index n).bind fun sprite _ ↦ ?_
  refine (keeps_setFlag 0).bind fun _ _ ↦ (keeps_flipRows left top sprite false).bind fun _ _ ↦ ?_
  exact .ite ((keeps_setFlag 1).bind fun _ _ ↦ finish) finish

theorem keeps_skipKey (down : Bool) (x : Int) : Keeps (skipKey down x) :=
  (keeps_readV x).bind fun v _ ↦ (keeps_isDown v).bind fun _ _ ↦
    .ite ((keeps_advance 2).bind fun _ _ ↦ keeps_advance 2) (keeps_advance 2)

/-- **A wait starts with a register that exists.** -/
theorem keeps_awaitKey {x : Int} (register : 0 ≤ x ∧ x < 16) : Keeps (awaitKey x) := by
  refine keeps_highest?.bind fun key _ ↦ ?_
  cases key with
  | none =>
    -- After the first of the two writes the machine waits without a register.
    intro s wf
    exact ⟨{ wf with wait := .inr ⟨rfl, x, rfl, register⟩ }, trivial⟩
  | some key => exact (keeps_setV x key).bind fun _ _ ↦ keeps_advance 2

/-- **A wait ends without one.** -/
theorem keeps_pollKey : Keeps pollKey := by
  refine Gives.part.bind fun s _ ↦ keeps_highest?.bind fun key _ ↦ ?_
  cases key with
  | none => exact .pure trivial
  | some key =>
    cases s.waitRegister with
    | none => exact .pure trivial
    | some x =>
      refine (keeps_setV x key).bind fun _ _ ↦ ?_
      exact .change_change (fun _ wf ↦ { wf with wait := .inl ⟨rfl, rfl⟩ })
        ((keeps_advance 2).bind fun _ _ ↦ .pure trivial)

theorem keeps_addIndex (x : Int) : Keeps (addIndex x) :=
  Gives.part.bind fun _ _ ↦ (keeps_readV x).bind fun _ _ ↦ (keeps_setFlag _).bind fun _ _ ↦
    (keeps_setIndex _).bind fun _ _ ↦ keeps_advance 2

/-- Registers can be filled with bytes as they are. -/
theorem keeps_fill (i : Int) {values : List Int} (bytes : ∀ v ∈ values, IsByte v) :
    Keeps (fill i values) := by
  induction values generalizing i with
  | nil => exact .pure trivial
  | cons value values ih =>
    rw [List.forall_mem_cons] at bytes
    exact (keeps_writeV bytes.1).bind fun _ _ ↦ ih (i + 1) bytes.2

/-- **Every instruction keeps a machine well-formed**, as long as it names registers that exist. -/
theorem keeps_handler {f : Fields} (register : 0 ≤ f.x ∧ f.x < 16) (op : Opcode) :
    Keeps (handler f op) := by
  cases op with
  | cls => exact keeps_clearScreen.bind fun _ _ ↦ keeps_advance 2
  | ret => exact Gives.part.bind fun s _ ↦ (keeps_pop s.pc).bind fun _ _ ↦ keeps_setPc _
  | jp => exact keeps_setPc f.nnn
  | call => exact Gives.part.bind fun s _ ↦ (keeps_push _ s.pc).bind fun _ _ ↦ keeps_setPc f.nnn
  | seImm | sneImm => exact (keeps_readV f.x).bind fun _ _ ↦ keeps_advance _
  | seReg | sneReg =>
    exact (keeps_readV f.x).bind fun _ _ ↦ (keeps_readV f.y).bind fun _ _ ↦ keeps_advance _
  | ldImm => exact (keeps_setV f.x f.nn).bind fun _ _ ↦ keeps_advance 2
  | addImm =>
    exact (keeps_readV f.x).bind fun _ _ ↦ (keeps_setV f.x _).bind fun _ _ ↦ keeps_advance 2
  | ldReg | or | and | xor | addReg | sub | shr | subn | shl =>
    simp only [handler]
    exact keeps_arithmetic _ f.x f.y
  | ldI => exact (keeps_setIndex f.nnn).bind fun _ _ ↦ keeps_advance 2
  | jpV0 => exact (keeps_readV 0).bind fun _ _ ↦ keeps_setPc _
  | rnd => exact keeps_drawByte.bind fun _ _ ↦ (keeps_setV f.x _).bind fun _ _ ↦ keeps_advance 2
  | drw => exact keeps_draw f.x f.y f.n
  | skp | sknp => exact keeps_skipKey _ f.x
  | ldVxDt => exact Gives.part.bind fun _ _ ↦ (keeps_setV f.x _).bind fun _ _ ↦ keeps_advance 2
  | ldVxK => exact keeps_awaitKey register
  | ldDtVx =>
    refine (keeps_readV f.x).bind fun value _ ↦ ?_
    exact (keeps_changeTimers fun _ h ↦ h.set .delay value).bind fun _ _ ↦ keeps_advance 2
  | ldStVx =>
    refine (keeps_readV f.x).bind fun value _ ↦ ?_
    exact (keeps_changeTimers fun _ h ↦ h.set .sound value).bind fun _ _ ↦ keeps_advance 2
  | addI => exact keeps_addIndex f.x
  | ldF => exact (keeps_readV f.x).bind fun _ _ ↦ (keeps_setIndex _).bind fun _ _ ↦ keeps_advance 2
  | ldB =>
    exact (keeps_readV f.x).bind fun _ _ ↦ Gives.part.bind fun s _ ↦
      (keeps_writeBytes s.index _).bind fun _ _ ↦ keeps_advance 2
  | ldMemVx =>
    exact Gives.part.bind fun s _ ↦ (keeps_writeBytes s.index _).bind fun _ _ ↦ keeps_advance 2
  | ldVxMem =>
    -- Nothing is masked here: the registers get what the cells were.
    exact Gives.part.bind fun s _ ↦ (gives_readBytes s.index _).bind fun _ bytes ↦
      (keeps_fill 0 bytes).bind fun _ _ ↦ keeps_advance 2

/-! ### Operations of a host -/

/-- Memory that is reset has the length that it should have, whatever it was before. -/
theorem keeps_resetMemory : Keeps resetMemory := by
  have zeros (s : State) (wf : s.WellFormed) : State.WellFormed { s with
      cells :=
        Sequence.setSlice s.cells 0 s.cells.length (List.replicate Memory.standardSize 0) } := by
    refine { wf with cells := ?_ }
    rw [Sequence.setSlice_all]
    exact fit_zeros _ (isByte_emod 0)
  refine .bind (.change zeros) fun _ _ ↦ .change fun s wf ↦ { wf with cells := ⟨?_, ?_⟩ }
  · refine length_cells_of_write wf.cells.1 (.inr ?_)
    rw [List.length_map, Array.length_toList]
    decide
  · intro b mem
    rcases Sequence.mem_of_mem_setSlice mem with before | glyph
    · exact wf.cells.2 b before
    · obtain ⟨byte, -, rfl⟩ := List.mem_map.1 glyph
      have below := byte.isLt
      rw [IsByte]
      omega

theorem keeps_resetRegisters (pc : Int) : Keeps (resetRegisters pc) :=
  .bind (.change fun _ wf ↦ { wf with registers := fit_zeros 16 (isByte_emod 0) }) fun _ _ ↦
    .bind (.change fun _ wf ↦ { wf with index := isWord_emod 0 }) fun _ _ ↦ keeps_setPc pc

theorem keeps_resetStack : Keeps resetStack :=
  .bind (.change fun _ wf ↦ { wf with slots := fit_zeros 16 (isWord_emod 0) }) fun _ _ ↦
    .change fun _ wf ↦ { wf with pointer := ⟨le_rfl, Int.natCast_nonneg 16⟩ }

theorem keeps_resetScreen : Keeps resetScreen :=
  .bind (.change fun _ wf ↦ { wf with pixels := darken_shape wf.pixels }) fun _ _ ↦
    keeps_setDirty false

theorem keeps_reset (origin now : Int) : Keeps (reset origin now) := by
  refine keeps_resetMemory.bind fun _ _ ↦ (keeps_resetRegisters origin).bind fun _ _ ↦ ?_
  refine keeps_resetStack.bind fun _ _ ↦ keeps_resetScreen.bind fun _ _ ↦ ?_
  refine .bind (.change fun _ wf ↦ { wf with keys := List.length_replicate }) fun _ _ ↦ ?_
  refine .bind (keeps_changeTimers fun _ h ↦ .reset h.period_pos now) fun _ _ ↦ ?_
  -- A wait is ended by two writes.
  refine .change_change (fun _ wf ↦ { wf with wait := .inl ⟨rfl, rfl⟩ }) ?_
  exact .bind (.change fun _ wf ↦ { wf with }) fun _ _ ↦ .change fun _ wf ↦ { wf with }

theorem keeps_count : Keeps count := .change fun _ wf ↦ { wf with }

theorem keeps_execute (word : Int) : Keeps (execute word) := by
  refine Gives.part.bind fun s _ ↦ .bind (.change fun _ wf ↦ { wf with }) fun _ _ ↦ ?_
  cases identify (Word.ofInt (word % 65536)) with
  | none => exact Gives.throw _
  | some op =>
    refine (keeps_handler (x_ofWord _) op).bind fun _ _ ↦ Gives.part.bind fun t _ ↦ ?_
    exact .ite (keeps_count.bind fun _ _ ↦ .pure trivial) (.pure trivial)

theorem keeps_executeNext : Keeps executeNext := by
  have answer : Keeps (do return (← Access.part).last) := Gives.part.bind fun _ _ ↦ .pure trivial
  refine Gives.part.bind fun s _ ↦ ?_
  cases s.mode with
  | waitingForKey =>
    exact keeps_pollKey.bind fun _ _ ↦ .ite (keeps_count.bind fun _ _ ↦ answer) answer
  | running =>
    refine Gives.part.bind fun t _ ↦ (keeps_readWord t.pc).bind fun word _ ↦ ?_
    exact (keeps_execute word).bind fun _ _ ↦ .pure trivial

theorem keeps_step (now : Int) : Keeps (step now) :=
  keeps_executeNext.bind fun _ _ ↦
    (keeps_passTime fun _ _ _ h sampled ↦ h.sample sampled).bind fun _ _ ↦ .pure trivial

/-- **Every operation of a host keeps a machine well-formed**, also one that is refused. -/
theorem keeps_perform (origin : Int) (c : Command) : Keeps (perform origin c) := by
  have silent {a : Action Unit} (keeps : Keeps a) : Keeps (do
      a
      return Reply.done) :=
    keeps.bind fun _ _ ↦ .pure trivial
  cases c with
  | reset now => exact silent (keeps_reset origin now)
  | load values => exact silent (keeps_load values origin)
  | loadProgram values now =>
    exact (keeps_reset origin now).bind fun _ _ ↦ silent (keeps_load values origin)
  | step now => exact (keeps_step now).bind fun _ _ ↦ .pure trivial
  | executeNext => exact keeps_executeNext.bind fun _ _ ↦ .pure trivial
  | execute word => exact (keeps_execute word).bind fun _ _ ↦ .pure trivial
  | advanceTimers elapsed =>
    exact (keeps_passTime fun _ _ _ h passed ↦ h.advance passed).bind fun _ _ ↦ .pure trivial
  | keyDown i => exact silent (keeps_turn true i)
  | keyUp i => exact silent (keeps_turn false i)
  | setRegister i value => exact silent (keeps_setV i value)
  | setPc value => exact silent (keeps_setPc value)
  | setIndex value => exact silent (keeps_setIndex value)
  | setDelay value => exact silent (keeps_changeTimers fun _ h ↦ h.set .delay value)
  | setSound value => exact silent (keeps_changeTimers fun _ h ↦ h.set .sound value)
  | writeMemory address values => exact silent (keeps_writeBytes address values)
  | setPixel x y lit => exact silent (keeps_setPixel x y lit)
  | flipPixel x y => exact (keeps_flip x y).bind fun _ _ ↦ .pure trivial
  | clearScreen => exact silent keeps_clearScreen
  | markDirty => exact silent (keeps_setDirty true)
  | clearDrawPending => exact silent (keeps_setDirty false)

/-! ### Sessions -/

/-- What an access leaves of a well-formed machine is well-formed. -/
theorem Gives.wellFormed {Q : α → Prop} {a : Action α} (h : Gives a Q) (wf : s.WellFormed) :
    (Access.left (a.run s)).WellFormed := by
  have done := h s wf
  cases run : a.run s with
  | ok v t =>
    rw [run] at done
    exact done.1
  | error e t =>
    rw [run] at done
    exact done

namespace State

/-- A machine that was put together is well-formed. -/
theorem wellFormed_initial {period : Int} (positive : 0 < period) (random : RandomSource) :
    (initial period random).WellFormed where
  registers := fit_zeros 16 (isByte_emod 0)
  index := isWord_emod 0
  pc := isWord_emod Memory.programOrigin
  cells := fit_zeros Memory.standardSize (isByte_emod 0)
  slots := fit_zeros 16 (isWord_emod 0)
  pointer := ⟨le_rfl, Int.natCast_nonneg 16⟩
  pixels := ⟨List.length_replicate, fun row mem ↦ by
    rw [List.eq_of_mem_replicate mem]
    exact List.length_replicate⟩
  keys := List.length_replicate
  timers := .reset (t := ⟨period, 0, 0, 0⟩) positive 0
  wait := .inl ⟨rfl, rfl⟩

/-- **A machine that was just switched on is well-formed.** -/
theorem wellFormed_powerOn (setup : Setup) (random : RandomSource) (now : Int) :
    (powerOn setup random now).WellFormed :=
  (keeps_reset setup.origin now).wellFormed (wellFormed_initial setup.period_pos random)

namespace WellFormed

/-- **A command leaves a well-formed machine well-formed.** -/
theorem perform (h : s.WellFormed) (origin : Int) (c : Command) :
    (Access.left ((perform origin c).run s)).WellFormed :=
  (keeps_perform origin c).wellFormed h

/-- **And so does a session.** -/
theorem after (h : s.WellFormed) (origin : Int) (cs : List Command) :
    (s.after origin cs).WellFormed := by
  induction cs generalizing s with
  | nil => exact h
  | cons c cs ih => exact ih (h.perform origin c)

end WellFormed

end State

end Chip8.Bare
