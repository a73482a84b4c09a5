import Chip8.Host.Sheet
import Chip8.Proofs.Numerals
import Mathlib.Data.List.Nodup

/-!
# Diffs are exact and can be replayed

What a diff says of two snapshots is all there is to say: from the earlier snapshot and the diff
one gets the later one, and from the later one and the diff the other way round the earlier one.
Only the pixels, of which a diff tells just whether they differ, and the flag for drawing, at which
it does not look, stay as they are. The main result is `Snapshot.exact_diff`.

`Snapshot.replay` reads a diff by the printed names of its entries, as a reader would. So it has to
be shown that no two entries have the same name (`FieldTable.nodup_names`): fields have different
names, cells have different names, and no field is named like a cell. For the rest it suffices that
there is an entry for a field, or a cell, if and only if its two values differ
(`FieldTable.mem_changes`, `mem_cellChanges`). The way back needs no argument of its own, because
the diff of two snapshots in the other order is the same diff swapped (`diff_swap`).
-/

namespace Chip8.Snapshot

/-! ### Names -/

/-- The name of the cell at an address. -/
def cellName (address : Nat) : String := "0x" ++ Text.hex 3 address

theorem registerName_injective : Function.Injective registerName := fun _ _ same ↦
  Text.eq_of_hex_eq ((String.append_right_inj "V").1 same)

theorem cellName_injective : Function.Injective cellName := fun _ _ same ↦
  Text.eq_of_hex_eq ((String.append_right_inj "0x").1 same)

namespace Field

/-- The fields other than registers. -/
def plain : List Field :=
  [index, pc, stack, mode, waitingRegister, executed, pressedKeys, delay, sound, period]

theorem register_or_plain (f : Field) : (∃ i, f = register i) ∨ f ∈ plain := by
  cases f with
  | register i => exact .inl ⟨i, rfl⟩
  | _ => exact .inr (by decide)

/-- Only registers have names that begin like theirs. -/
theorem name_register_ne (i : Nat) {g : Field} (other : g ∈ plain) :
    (register i).name ≠ g.name := by
  intro same
  have begins : g.name.toList.take 10 = "registers.".toList := by
    rw [← same, name, String.toList_append]
    exact List.take_left' rfl
  have never : ∀ g ∈ plain, g.name.toList.take 10 ≠ "registers.".toList := by decide
  exact never g other begins

/-- **Fields have different names.** -/
theorem name_injective : Function.Injective name := by
  intro f g same
  rcases f.register_or_plain with ⟨i, rfl⟩ | hf
  · rcases g.register_or_plain with ⟨j, rfl⟩ | hg
    · rw [registerName_injective ((String.append_right_inj "registers.").1 same)]
    · exact absurd same (name_register_ne i hg)
  · rcases g.register_or_plain with ⟨j, rfl⟩ | hg
    · exact absurd same.symm (name_register_ne j hf)
    · have distinct : ∀ f ∈ plain, ∀ g ∈ plain, f.name = g.name → f = g := by decide
      exact distinct f hf g hg same

/-- No field is named like a cell. -/
theorem name_ne_cellName (f : Field) (address : Nat) : f.name ≠ cellName address := by
  intro same
  have zero : f.name.toList.head? = some '0' := by
    rw [same, cellName, String.toList_append]
    rfl
  rcases f.register_or_plain with ⟨i, rfl⟩ | hf
  · rw [name, String.toList_append] at zero
    cases zero
  · have letters : ∀ f ∈ plain, f.name.toList.head? ≠ some '0' := by decide
    exact letters f hf zero

end Field

/-! ### Diffs the other way round -/

section Swap

variable {V : Type}

/-- The change back. -/
def Change.swap (c : Change V) : Change V := ⟨c.field, c.after, c.before⟩

/-- The change back. -/
def CellChange.swap (c : CellChange) : CellChange := ⟨c.address, c.after, c.before⟩

/-- A diff with the two values exchanged in every entry. -/
def Diff.swap (d : Diff V) : Diff V where
  cpu := d.cpu.map Change.swap
  memory := d.memory.map CellChange.swap
  keypad := d.keypad.map Change.swap
  timers := d.timers.map Change.swap
  displayChanged := d.displayChanged

theorem cellChanges_swap (address : Nat) (bs as : List Byte) :
    cellChanges address as bs = (cellChanges address bs as).map CellChange.swap := by
  induction bs generalizing as address with
  | nil =>
    rcases as with - | ⟨a, as⟩
    · rfl
    · rfl
  | cons b bs ih =>
    rcases as with - | ⟨a, as⟩
    · rfl
    · rw [cellChanges, cellChanges]
      by_cases same : b = a
      · rw [if_pos same, if_pos same.symm, ih]
      · rw [if_neg same, if_neg (Ne.symm same), ih]
        rfl

variable [BEq V] [LawfulBEq V] {b a : FieldTable V}

theorem FieldTable.changes_swap (b a : FieldTable V) (fields : List Field) :
    a.changes b fields = (b.changes a fields).map Change.swap := by
  rw [changes, changes, List.filter_map, List.filter_map, List.map_map]
  refine congrArg (List.map _) (List.filter_congr fun f _ ↦ ?_)
  exact bne_comm

/-- **The diff in the other order is the same one swapped.** -/
theorem FieldTable.diff_swap (b a : FieldTable V) : a.diff b = (b.diff a).swap := by
  simp only [diff, Diff.swap, ← changes_swap, ← cellChanges_swap,
    Nat.max_comm a.registers, bne_comm (a := a.pixels)]

end Swap

theorem diff_swap (b a : Snapshot) : a.diff b = (b.diff a).swap := b.table.diff_swap a.table

/-! ### What a diff lists -/

section Entries

variable {V : Type}

/-- The fields that changed, group by group. -/
def Diff.entries (d : Diff V) : List (Change V) := d.cpu ++ d.keypad ++ d.timers

/-- The fields that are compared in two snapshots with a number of registers at most. -/
def comparedFields (registers : Nat) : List Field := registerFields registers ++ Field.plain

theorem mem_registerFields {f : Field} {count : Nat} :
    f ∈ registerFields count ↔ ∃ i < count, f = .register i := by
  simp [registerFields, List.mem_mergeSort, eq_comm]

theorem nodup_comparedFields (registers : Nat) : (comparedFields registers).Nodup := by
  have numbers : ((List.range registers).mergeSort fun i j ↦
      decide (registerName i ≤ registerName j)).Nodup :=
    (List.mergeSort_perm _ _).nodup_iff.2 List.nodup_range
  refine List.nodup_append.2 ⟨.map (fun _ _ ↦ Field.register.inj) numbers, by decide, ?_⟩
  rintro f hf g hg rfl
  obtain ⟨i, -, rfl⟩ := mem_registerFields.1 hf
  exact Field.name_register_ne i hg rfl

variable [BEq V] {b a : FieldTable V} {fields : List Field} {c : Change V}

theorem FieldTable.changes_append (b a : FieldTable V) (fs gs : List Field) :
    b.changes a (fs ++ gs) = b.changes a fs ++ b.changes a gs := by
  rw [changes, List.map_append, List.filter_append, changes, changes]

theorem FieldTable.entries_diff (b a : FieldTable V) :
    (b.diff a).entries = b.changes a (comparedFields (max b.registers a.registers)) := by
  rw [Diff.entries, diff, ← changes_append, ← changes_append, List.append_assoc, List.append_assoc]
  rfl

/-- The fields that are listed are in the order in which they are compared. -/
theorem FieldTable.sublist_changes (b a : FieldTable V) (fields : List Field) :
    ((b.changes a fields).map Change.field).Sublist fields := by
  rw [changes, List.filter_map, List.map_map]
  have same : (Change.field ∘ fun f ↦ ⟨f, b.value f, a.value f⟩ : Field → Field) = id := rfl
  rw [same, List.map_id]
  exact List.filter_sublist

/-- **A field is listed with its two values if they differ.** -/
theorem FieldTable.mem_changes [LawfulBEq V] : c ∈ b.changes a fields ↔
    c.field ∈ fields ∧ c.before = b.value c.field ∧ c.after = a.value c.field ∧
      c.before ≠ c.after := by
  rw [changes, List.mem_filter, List.mem_map, bne_iff_ne]
  constructor
  · rintro ⟨⟨f, hf, rfl⟩, differ⟩
    exact ⟨hf, rfl, rfl, differ⟩
  · rintro ⟨hf, before, after, differ⟩
    refine ⟨⟨c.field, hf, ?_⟩, differ⟩
    rw [← before, ← after]

end Entries

/-- **A cell is listed with its two bytes if they differ.** -/
theorem mem_cellChanges {address : Nat} {bs as : List Byte} {c : CellChange} :
    c ∈ cellChanges address bs as ↔
      ∃ i, c.address = address + i ∧ bs[i]? = some c.before ∧ as[i]? = some c.after ∧
        c.before ≠ c.after := by
  induction bs generalizing address as with
  | nil => simp [cellChanges]
  | cons b bs ih =>
    rcases as with - | ⟨a, as⟩
    · simp [cellChanges]
    · rw [cellChanges, ← Nat.or_exists_add_one]
      have rest : c ∈ cellChanges (address + 1) bs as ↔
          ∃ i, c.address = address + (i + 1) ∧ (b :: bs)[i + 1]? = some c.before ∧
            (a :: as)[i + 1]? = some c.after ∧ c.before ≠ c.after := by
        simp only [ih, List.getElem?_cons_succ, Nat.add_assoc, Nat.add_comm 1]
      by_cases same : b = a
      · rw [if_pos same, rest]
        refine ⟨.inr, fun listed ↦ listed.resolve_left ?_⟩
        rintro ⟨-, before, after, differ⟩
        exact differ ((Option.some.inj before).symm.trans (same.trans (Option.some.inj after)))
      · rw [if_neg same, List.mem_cons, rest]
        refine or_congr_left ⟨?_, ?_⟩
        · rintro rfl
          exact ⟨rfl, rfl, rfl, same⟩
        · obtain ⟨cell, before, after⟩ := c
          rintro ⟨rfl, first, second, -⟩
          rw [Option.some.inj first, Option.some.inj second]

/-- Cells are listed in the order of their addresses. -/
theorem pairwise_cellChanges (address : Nat) (bs as : List Byte) :
    (cellChanges address bs as).Pairwise fun c d ↦ c.address < d.address := by
  induction bs generalizing address as with
  | nil => exact .nil
  | cons b bs ih =>
    rcases as with - | ⟨a, as⟩
    · exact .nil
    · rw [cellChanges]
      split
      · exact ih (address + 1) as
      · refine List.pairwise_cons.2 ⟨fun c hc ↦ ?_, ih (address + 1) as⟩
        obtain ⟨i, later, -⟩ := mem_cellChanges.1 hc
        show address < c.address
        omega

/-- **No two entries of a diff have the same name.** -/
theorem FieldTable.nodup_names {V : Type} [BEq V] (b a : FieldTable V) :
    (b.diff a).names.Nodup := by
  have fields : ((b.diff a).entries.map fun c ↦ c.field.name).Nodup := by
    have listed := (b.sublist_changes a (comparedFields (max b.registers a.registers))).nodup
      (nodup_comparedFields _)
    rw [← entries_diff] at listed
    have names := List.Nodup.map Field.name_injective listed
    rwa [List.map_map] at names
  have cells : ((b.diff a).memory.map CellChange.name).Nodup := by
    refine List.pairwise_map.2 ((pairwise_cellChanges 0 b.memory a.memory).imp ?_)
    intro c d before same
    exact Nat.ne_of_lt before (cellName_injective same)
  have apart : ((b.diff a).memory.map CellChange.name).Disjoint
      ((b.diff a).entries.map fun c ↦ c.field.name) := by
    intro name cell field
    obtain ⟨c, -, rfl⟩ := List.mem_map.1 cell
    obtain ⟨d, -, same⟩ := List.mem_map.1 field
    exact d.field.name_ne_cellName c.address same
  -- The names come group by group, with those of the cells second.
  have all := List.nodup_append'.2 ⟨cells, fields, apart⟩
  refine (List.Perm.nodup_iff ?_).1 all
  simp only [Diff.entries, Diff.names, List.map_append, List.append_assoc]
  exact List.perm_append_comm_assoc ..

/-! ### Snapshots from the values of their fields -/

/-- The integer that a value is. -/
def FieldValue.int? : FieldValue → Option Int
  | int n => some n
  | _ => none

/-- The integers that a value is a list of. -/
def FieldValue.ints? : FieldValue → Option (List Int)
  | ints ns => some ns
  | _ => none

/-- The text that a value is. -/
def FieldValue.text? : FieldValue → Option String
  | text s => some s
  | _ => none

theorem FieldValue.int?_ofOption (n : Option Int) : (ofOption n).int? = n := by
  rcases n with - | n
  · rfl
  · rfl

/-- The snapshot whose fields have given values, with those of the first registers that are not
absent. -/
def ofValues (registers : Nat) (value : Field → FieldValue) (memory : List Byte)
    (pixels : List (List Bool)) (drawPending : Bool) : Snapshot where
  registers := (List.range registers).filterMap fun i ↦ (value (.register i)).int?
  index := (value .index).int?.getD 0
  pc := (value .pc).int?.getD 0
  stack := (value .stack).ints?.getD []
  mode := (value .mode).text?.getD ""
  waitingRegister := (value .waitingRegister).int?
  executed := (value .executed).int?.getD 0
  memory := memory
  pressedKeys := (value .pressedKeys).ints?.getD []
  delay := (value .delay).int?.getD 0
  sound := (value .sound).int?.getD 0
  period := (value .period).int?.getD 0
  pixels := pixels
  drawPending := drawPending

/-- The items of a list at the first so many positions. -/
theorem filterMap_range_getElem? {α : Type} (xs : List α) (n : Nat) :
    (List.range n).filterMap (xs[·]?) = xs.take n := by
  induction n with
  | zero => rfl
  | succ n ih =>
    have last : [n].filterMap (xs[·]?) = xs[n]?.toList := by
      rcases item : xs[n]? with - | x
      · rw [List.filterMap_cons_none item]
        rfl
      · rw [List.filterMap_cons_some item]
        rfl
    rw [List.range_succ, List.filterMap_append, ih, last, List.take_add_one]

/-- **A snapshot is made of the values of its fields**, if all registers are looked at. -/
theorem ofValues_value {s : Snapshot} {registers : Nat} (all : s.registers.length ≤ registers)
    (pixels : List (List Bool)) (drawPending : Bool) :
    ofValues registers s.value s.memory pixels drawPending = { s with pixels, drawPending } := by
  have items : (List.range registers).filterMap (fun i ↦ (s.value (.register i)).int?) =
      s.registers := by
    simp only [value, FieldValue.int?_ofOption]
    rw [filterMap_range_getElem?, List.take_of_length_le all]
  have waiting : (s.value .waitingRegister).int? = s.waitingRegister := FieldValue.int?_ofOption _
  rw [ofValues, items, waiting]
  rfl

/-! ### Replaying a diff -/

namespace Diff

variable {V : Type}

/-- The later value of the field with a name, if it is listed. -/
def valueAt? (d : Diff V) (name : String) : Option V :=
  (d.entries.find? fun c ↦ c.field.name = name).map Change.after

/-- The later byte of the cell with a name, if it is listed. -/
def byteAt? (d : Diff V) (name : String) : Option Byte :=
  (d.memory.find? fun c ↦ c.name = name).map CellChange.after

/-- How many registers there have to be for all those that are listed. -/
def reach (d : Diff V) : Nat :=
  ((d.entries.map fun c ↦ match c.field with | .register i => i + 1 | _ => 0).max?).getD 0

end Diff

/-- The value of a field after a diff. -/
def valueAfter (s : Snapshot) (d : Diff FieldValue) (f : Field) : FieldValue :=
  (d.valueAt? f.name).getD (s.value f)

/-- The cells after a diff. -/
def memoryAfter (s : Snapshot) (d : Diff FieldValue) : List Byte :=
  s.memory.mapIdx fun i byte ↦ (d.byteAt? (cellName i)).getD byte

/-- A snapshot with every field and every cell that a diff lists replaced by the later value. Pixels
and the flag for drawing stay. -/
def replay (s : Snapshot) (d : Diff FieldValue) : Snapshot :=
  ofValues (max s.registers.length d.reach) (s.valueAfter d) (s.memoryAfter d) s.pixels
    s.drawPending

variable {b a : Snapshot} {f : Field} {c : Change FieldValue}

/-- A field whose values differ is among those that are compared. -/
theorem mem_comparedFields (differ : b.value f ≠ a.value f) :
    f ∈ comparedFields (max b.registers.length a.registers.length) := by
  rcases f.register_or_plain with ⟨i, rfl⟩ | plain
  · refine List.mem_append_left _ (mem_registerFields.2 ⟨i, ?_, rfl⟩)
    by_contra beyond
    have before : b.registers[i]? = none := List.getElem?_eq_none (by omega)
    have after : a.registers[i]? = none := List.getElem?_eq_none (by omega)
    rw [value, value, before, after] at differ
    exact differ rfl
  · exact List.mem_append_right _ plain

/-- **There is an entry for a field exactly if its values differ**, and it has the two values. -/
theorem mem_entries_diff : c ∈ (b.diff a).entries ↔
    c.before = b.value c.field ∧ c.after = a.value c.field ∧ c.before ≠ c.after := by
  rw [diff, FieldTable.entries_diff, FieldTable.mem_changes]
  refine and_iff_right_of_imp ?_
  rintro ⟨before, after, differ⟩
  rw [before, after] at differ
  exact mem_comparedFields differ

/-- After the diff every field has its later value. -/
theorem valueAfter_diff (b a : Snapshot) : b.valueAfter (b.diff a) = a.value := by
  funext f
  rw [valueAfter, Diff.valueAt?]
  rcases found : (b.diff a).entries.find? (fun c ↦ c.field.name = f.name) with - | c
  · rw [found]
    show b.value f = a.value f
    by_contra differ
    have listed : ⟨f, b.value f, a.value f⟩ ∈ (b.diff a).entries :=
      mem_entries_diff.2 ⟨rfl, rfl, differ⟩
    exact List.find?_eq_none.1 found _ listed (decide_eq_true rfl)
  · have named := List.find?_some found
    obtain rfl : c.field = f := Field.name_injective (of_decide_eq_true named)
    obtain ⟨-, after, -⟩ := mem_entries_diff.1 (List.mem_of_find?_eq_some found)
    rw [found]
    exact after

/-- After the diff every cell has its later byte. -/
theorem memoryAfter_diff (sized : b.memory.length = a.memory.length) :
    b.memoryAfter (b.diff a) = a.memory := by
  refine List.ext_getElem? fun i ↦ ?_
  rw [memoryAfter, List.getElem?_mapIdx]
  by_cases inside : i < a.memory.length
  · obtain ⟨x, old⟩ : ∃ x, b.memory[i]? = some x := ⟨_, List.getElem?_eq_getElem (by omega)⟩
    obtain ⟨y, new⟩ : ∃ y, a.memory[i]? = some y := ⟨_, List.getElem?_eq_getElem inside⟩
    rw [old, new, Option.map_some, Diff.byteAt?]
    rcases found : (b.diff a).memory.find? (fun c ↦ c.name = cellName i) with - | c
    · rw [found]
      show some x = some y
      by_contra differ
      have listed : ⟨i, x, y⟩ ∈ (b.diff a).memory :=
        mem_cellChanges.2
          ⟨i, (Nat.zero_add i).symm, old, new, fun same ↦ differ (congrArg some same)⟩
      exact List.find?_eq_none.1 found _ listed (decide_eq_true rfl)
    · have named := List.find?_some found
      have place : c.address = i := cellName_injective (of_decide_eq_true named)
      obtain ⟨j, at_j, -, after, -⟩ := mem_cellChanges.1 (List.mem_of_find?_eq_some found)
      obtain rfl : i = j := by omega
      rw [found]
      exact after.symm.trans new
  · rw [List.getElem?_eq_none (by omega), List.getElem?_eq_none (by omega)]
    rfl

/-- Every register of the later snapshot is one of the earlier one or listed. -/
theorem length_registers_le_reach (b a : Snapshot) :
    a.registers.length ≤ max b.registers.length (b.diff a).reach := by
  by_contra more
  obtain ⟨i, last⟩ : ∃ i, a.registers.length = i + 1 := ⟨a.registers.length - 1, by omega⟩
  have before : b.registers[i]? = none := List.getElem?_eq_none (by omega)
  have after : a.registers[i]? = some a.registers[i] := List.getElem?_eq_getElem (by omega)
  have listed : ⟨.register i, .absent, .int a.registers[i]⟩ ∈ (b.diff a).entries := by
    refine mem_entries_diff.2 ⟨?_, ?_, nofun⟩
    · rw [value, before]
      rfl
    · rw [value, after]
      rfl
  have reached : i + 1 ≤ (b.diff a).reach :=
    List.le_max?_getD_of_mem (List.mem_map_of_mem listed)
  omega

/-- **Replaying a diff leads from the earlier snapshot to the later one.** -/
theorem replay_diff (sized : b.memory.length = a.memory.length) :
    b.replay (b.diff a) = { a with pixels := b.pixels, drawPending := b.drawPending } := by
  rw [replay, valueAfter_diff, memoryAfter_diff sized]
  exact ofValues_value (length_registers_le_reach b a) _ _

/-! ### Diffs without entries -/

/-- The empty diff changes nothing. -/
theorem replay_empty (s : Snapshot) : s.replay .empty = s := by
  have memory : s.memoryAfter .empty = s.memory := by
    refine List.ext_getElem? fun i ↦ ?_
    rw [memoryAfter, List.getElem?_mapIdx]
    exact Option.map_id_apply
  rw [replay, memory]
  exact ofValues_value (Nat.le_max_left _ _) _ _

theorem cellChanges_self (address : Nat) (bs : List Byte) : cellChanges address bs bs = [] := by
  induction bs generalizing address with
  | nil => rfl
  | cons b bs ih =>
    rw [cellChanges, if_pos rfl]
    exact ih (address + 1)

theorem FieldTable.changes_self {V : Type} [BEq V] [LawfulBEq V] (a : FieldTable V)
    (fields : List Field) : a.changes a fields = [] := by
  refine List.eq_nil_iff_forall_not_mem.2 fun c listed ↦ ?_
  obtain ⟨-, before, after, differ⟩ := mem_changes.1 listed
  exact differ (before.trans after.symm)

/-- Nothing differs from itself. -/
theorem diff_self (a : Snapshot) : a.diff a = .empty := by
  rw [diff, FieldTable.diff, FieldTable.changes_self, FieldTable.changes_self,
    FieldTable.changes_self, cellChanges_self, bne_self_eq_false]
  rfl

/-- **A diff is empty if nothing but the flag for drawing differs**, and only then. -/
theorem isEmpty_diff_iff (sized : b.memory.length = a.memory.length) :
    (b.diff a).isEmpty = true ↔ { b with drawPending := a.drawPending } = a := by
  constructor
  · intro isEmpty
    have empty := (b.diff a).isEmpty_iff.1 isEmpty
    have replayed := replay_diff sized
    rw [empty, replay_empty] at replayed
    have pixels : b.pixels = a.pixels :=
      bne_eq_false_iff_eq.1 (congrArg Diff.displayChanged empty)
    rw [replayed, pixels]
  · intro same
    have unflagged : b.diff a = { b with drawPending := a.drawPending }.diff a := rfl
    rw [unflagged, same, diff_self]
    rfl

/-! ### The diff of two snapshots -/

/-- What a diff of two snapshots has to be. -/
structure Diff.Exact (d : Diff FieldValue) (b a : Snapshot) : Prop where
  /-- Every entry is a difference. -/
  fields_differ : ∀ c ∈ d.entries, c.before ≠ c.after
  cells_differ : ∀ c ∈ d.memory, c.before ≠ c.after
  /-- Entries have different names. -/
  nodup_names : d.names.Nodup
  /-- The later values make the later snapshot of the earlier one. -/
  forth : b.replay d = { a with pixels := b.pixels, drawPending := b.drawPending }
  /-- The earlier values make the earlier snapshot of the later one. -/
  back : a.replay d.swap = { b with pixels := a.pixels, drawPending := a.drawPending }
  displayChanged_iff : d.displayChanged = true ↔ b.pixels ≠ a.pixels
  isEmpty_iff : d.isEmpty = true ↔ { b with drawPending := a.drawPending } = a
  /-- It is the diff in the other order with the two values exchanged in every entry. -/
  swap : a.diff b = d.swap

/-- **A diff is exact.** Two snapshots with memories of the same size, and any numbers of registers,
differ in what their diff lists and in nothing else. -/
theorem exact_diff (sized : b.memory.length = a.memory.length) : (b.diff a).Exact b a where
  fields_differ _ listed := (mem_entries_diff.1 listed).2.2
  cells_differ _ listed := by
    obtain ⟨i, -, -, -, differ⟩ := mem_cellChanges.1 listed
    exact differ
  nodup_names := b.table.nodup_names a.table
  forth := replay_diff sized
  back := by
    rw [← diff_swap]
    exact replay_diff sized.symm
  displayChanged_iff := bne_iff_ne
  isEmpty_iff := isEmpty_diff_iff sized
  swap := diff_swap b a

/-- A snapshot of a machine with one register. -/
def oneRegister : Snapshot where
  registers := [7]
  index := 0
  pc := 0x200
  stack := []
  mode := "running"
  waitingRegister := none
  executed := 0
  memory := [0, 1, 2]
  pressedKeys := []
  delay := 0
  sound := 0
  period := 17
  pixels := [[false]]
  drawPending := false

/-- A snapshot of a machine with eighteen registers that waits for a key. -/
def manyRegisters : Snapshot :=
  { oneRegister with
    registers := List.replicate 18 7
    mode := "waiting_for_key"
    waitingRegister := some 0
    memory := [0, 5, 2]
    delay := -1
    drawPending := true }

/-- The diff of these two lists the registers that the first one lacks, one cell and one counter. -/
theorem exact_diff_manyRegisters :
    (oneRegister.diff manyRegisters).Exact oneRegister manyRegisters ∧
    ⟨.register 17, .absent, .int 7⟩ ∈ (oneRegister.diff manyRegisters).entries ∧
    (oneRegister.diff manyRegisters).memory = [⟨1, 1, 5⟩] ∧
    (oneRegister.diff manyRegisters).timers = [⟨.delay, .int 0, .int (-1)⟩] := by
  refine ⟨exact_diff (by rfl), ?_, ?_, ?_⟩
  · exact mem_entries_diff.2 ⟨by decide, by decide, nofun⟩
  · decide
  · decide

/-! ### Snapshots that a host sees -/

/-- A diff with other values. -/
def Diff.map {V W : Type} (f : V → W) (d : Diff V) : Diff W where
  cpu := d.cpu.map fun c ↦ ⟨c.field, f c.before, f c.after⟩
  memory := d.memory
  keypad := d.keypad.map fun c ↦ ⟨c.field, f c.before, f c.after⟩
  timers := d.timers.map fun c ↦ ⟨c.field, f c.before, f c.after⟩
  displayChanged := d.displayChanged

/-- Tables whose values correspond, and differ alike, have diffs that correspond. -/
theorem FieldTable.diff_map {V W : Type} [BEq V] [BEq W] {f : V → W}
    (beq : ∀ v w, (f v == f w) = (v == w)) (b a : FieldTable V) :
    FieldTable.diff ⟨b.registers, f ∘ b.value, b.memory, b.pixels⟩
        ⟨a.registers, f ∘ a.value, a.memory, a.pixels⟩ = (b.diff a).map f := by
  have changes (fields : List Field) :
      FieldTable.changes ⟨b.registers, f ∘ b.value, b.memory, b.pixels⟩
          ⟨a.registers, f ∘ a.value, a.memory, a.pixels⟩ fields =
        (b.changes a fields).map fun c ↦ ⟨c.field, f c.before, f c.after⟩ := by
    rw [FieldTable.changes, FieldTable.changes, List.filter_map, List.filter_map, List.map_map]
    refine congrArg (List.map _) (List.filter_congr fun g _ ↦ ?_)
    show (!(f (b.value g) == f (a.value g))) = !(b.value g == a.value g)
    rw [beq]
  rw [diff, changes, changes, changes]
  rfl

end Chip8.Snapshot

namespace Chip8.Host.Sheet

open Snapshot

theorem equalItems_int (ms ns : List Int) :
    Json.equalItems (ms.map .int) (ns.map .int) = (ms == ns) := by
  induction ms generalizing ns with
  | nil =>
    rcases ns with - | ⟨n, ns⟩
    · rfl
    · rfl
  | cons m ms ih =>
    rcases ns with - | ⟨n, ns⟩
    · rfl
    · rw [List.map_cons, List.map_cons, Json.equalItems, ih]
      rfl

/-- Values of fields are equal for a host if they are equal. -/
theorem beq_ofFieldValue (v w : FieldValue) : (ofFieldValue v == ofFieldValue w) = (v == w) := by
  have kinds (j : Json) : (ofFieldValue v == j) = (ofFieldValue v).equals j := by
    rcases v with - | n | ns | s
    · rfl
    · rfl
    · rfl
    · rfl
  have texts : Function.Injective CodeUnit.ofString := fun _ _ ↦ CodeUnit.ofString_injective
  rw [kinds, Bool.eq_iff_iff, beq_iff_eq]
  rcases v with - | m | ms | s
  · rcases w with - | n | ns | t <;> simp [ofFieldValue, Json.equals, Json.int, Json.text]
  · rcases w with - | n | ns | t <;>
      simp [ofFieldValue, Json.equals, Json.int, Json.text, Json.asNumber?, Number.equals]
  · rcases w with - | n | ns | t <;>
      simp [ofFieldValue, Json.equals, Json.int, Json.text, equalItems_int]
  · rcases w with - | n | ns | t <;>
      simp [ofFieldValue, Json.equals, Json.int, Json.text, texts.eq_iff]

/-- **The diff of two machines that a host sees is the diff of their snapshots.** -/
theorem diffFrom_ofSnapshot (b a : Snapshot) :
    diffFrom (some (ofSnapshot b)) (ofSnapshot a) = (b.diff a).map ofFieldValue := by
  have table (s : Snapshot) : (ofSnapshot s).table =
      ⟨s.table.registers, ofFieldValue ∘ s.table.value, s.table.memory, s.table.pixels⟩ := by
    have value : (ofSnapshot s).value = ofFieldValue ∘ s.value := funext (value_ofSnapshot s)
    rw [Sheet.table, value]
    simp [ofSnapshot, Snapshot.table]
  show (ofSnapshot b).table.diff (ofSnapshot a).table = _
  rw [table, table, FieldTable.diff_map beq_ofFieldValue]
  rfl

end Chip8.Host.Sheet
