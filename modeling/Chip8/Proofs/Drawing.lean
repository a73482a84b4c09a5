import Chip8.Proofs.ControlFlow
import Chip8.Proofs.Footprint
import Mathlib.Data.List.Nodup
import Mathlib.Data.Nat.ModEq

/-!
# What a sprite draws

A machine draws a sprite pixel by pixel. It toggles each pixel where it stands and asks of each
whether it was lit when its turn came. Taken as a whole it comes to this: the pixels that change are
those that the sprite covers (`Sprite.Covers`), and the flag tells whether one of them was lit
before the first was toggled (`Sprite.Meets`). The main result is `Machine.drawn_of_execute`.

The two agree because no pixel has two turns (`Screen.nodup_spritePixels`). Coordinates wrap round
at both edges, but a row has eight pixels and a sprite has fifteen rows at most, and a screen has
more of either. On a screen of seven columns a row could toggle a pixel back.

The sprite is read off the state before the instruction, registers and memory alike, so the word
that has the flag register for a coordinate is no special case. What drawing leaves alone is known
from `State.frame_of_exec` and `State.registerFrame_of_exec`.
-/

namespace Chip8

/-- A sprite with the coordinates of its top left corner. -/
structure Sprite where
  left : Nat
  top : Nat
  /-- The rows from the top, the leftmost pixel of each as its most significant bit. -/
  rows : List Byte
  deriving DecidableEq

namespace Sprite

variable {width height : Nat} {x : Fin width} {y : Fin height}

/-- Whether a sprite covers a position of a screen: the bit for some column `c` of some row `r` is
set, and falls there when the coordinates wrap round. -/
def Covers (p : Sprite) (x : Fin width) (y : Fin height) : Prop :=
  ∃ r < p.rows.length, ∃ c < 8,
    x.val = (p.left + c) % width ∧ y.val = (p.top + r) % height ∧
      (p.rows.getD r 0).getLsbD (7 - c) = true

instance (p : Sprite) (x : Fin width) (y : Fin height) : Decidable (p.Covers x y) :=
  Nat.decidableExistsLT p.rows.length

/-- Whether a sprite covers a pixel that is lit. -/
def Meets (p : Sprite) (s : Screen width height) : Prop :=
  ∃ x y, p.Covers x y ∧ s.lit x y = true

instance (p : Sprite) (s : Screen width height) : Decidable (p.Meets s) :=
  Nat.decidableExistsFin _

/-- A sprite covers what its first row covers, and what the sprite of the other rows covers one line
further down. -/
theorem covers_cons {left top : Nat} {row : Byte} {rows : List Byte} :
    Covers ⟨left, top, row :: rows⟩ x y ↔
      (∃ c < 8, x.val = (left + c) % width ∧ y.val = top % height ∧ row.getLsbD (7 - c) = true) ∨
        Covers ⟨left, top + 1, rows⟩ x y := by
  unfold Covers
  rw [List.length_cons, Nat.exists_lt_succ_left]
  simp only [List.getD_cons_zero, List.getD_cons_succ, Nat.add_zero, Nat.add_assoc, Nat.add_comm 1]

end Sprite

namespace Screen

variable {width height : Nat} {s : Screen width height} {x : Fin width} {y : Fin height}
  {left top : Nat} {rows : List Byte}

/-! ### The pixels of a sprite -/

theorem mem_rowOffsets {row : Byte} {c : Nat} :
    c ∈ rowOffsets row ↔ c < 8 ∧ row.getLsbD (7 - c) = true := by
  rw [rowOffsets, List.mem_filter, List.mem_range, spriteWidth, BitVec.getMsbD_eq_getLsbD]
  simp +contextual

/-- **The pixels of a sprite are those that it covers.** -/
theorem mem_spritePixels (hw : 0 < width) (hh : 0 < height) :
    (x, y) ∈ spritePixels hw hh left top rows ↔ Sprite.Covers ⟨left, top, rows⟩ x y := by
  induction rows generalizing top with
  | nil =>
    constructor
    · nofun
    · rintro ⟨r, below, -⟩
      cases below
  | cons row rows ih =>
    rw [spritePixels, List.mem_append, ih, Sprite.covers_cons, List.mem_map]
    refine or_congr_left ?_
    constructor
    · rintro ⟨c, offset, place⟩
      obtain ⟨below, set⟩ := mem_rowOffsets.1 offset
      cases place
      exact ⟨c, below, rfl, rfl, set⟩
    · rintro ⟨c, below, column, line, set⟩
      exact ⟨c, mem_rowOffsets.2 ⟨below, set⟩,
        Prod.ext (Fin.ext column.symm) (Fin.ext line.symm)⟩

/-- Offsets below the extent of a screen stay apart when they wrap round. -/
theorem eq_of_add_mod_eq {n a i j : Nat} (hi : i < n) (hj : j < n)
    (h : (a + i) % n = (a + j) % n) : i = j :=
  Nat.ModEq.eq_of_lt_of_lt (Nat.ModEq.add_left_cancel' a h) hi hj

/-- **No pixel of a sprite comes twice** on a screen that is no smaller than the sprite. -/
theorem nodup_spritePixels (hw : 0 < width) (hh : 0 < height) (columns : 8 ≤ width)
    (lines : rows.length ≤ height) : (spritePixels hw hh left top rows).Nodup := by
  induction rows generalizing top with
  | nil => exact List.nodup_nil
  | cons row rows ih =>
    rw [List.length_cons] at lines
    have offsets : (rowOffsets row).Nodup := List.nodup_range.filter _
    refine List.Nodup.append (List.Nodup.map_on ?_ offsets) (ih (by omega)) ?_
    · intro c hc d hd same
      have inside := (mem_rowOffsets.1 hc).1
      have inside' := (mem_rowOffsets.1 hd).1
      have column : (left + c) % width = (left + d) % width :=
        congrArg (fun p ↦ p.1.val) same
      exact eq_of_add_mod_eq (by omega) (by omega) column
    · -- A later row is less than the height of the screen below the first.
      rintro ⟨x, y⟩ first later
      obtain ⟨c, -, place⟩ := List.mem_map.1 first
      obtain ⟨r, below, -, -, -, line, -⟩ := (mem_spritePixels hw hh).1 later
      have line' : top % height = y.val := congrArg (fun p ↦ p.2.val) place
      have same : (top + 0) % height = (top + (1 + r)) % height := by
        rw [Nat.add_zero, line', line, Nat.add_assoc]
      simp only at below
      have apart := eq_of_add_mod_eq (by omega) (by omega) same
      omega

/-! ### Toggling pixels one after the other -/

theorem lit_modify_of_pair_ne {x' : Fin width} {y' : Fin height} (f : Bool → Bool)
    (h : (x', y') ≠ (x, y)) : (s.modify x y f).lit x' y' = s.lit x' y' := by
  refine lit_modify_of_ne s f (Decidable.not_and_iff_or_not.1 fun same ↦ h ?_)
  rw [same.1, same.2]

/-- **The pixels that change are those of the list**, if none has two turns. -/
theorem lit_toggleAll_ne_iff {ps : List (Fin width × Fin height)} (nodup : ps.Nodup) :
    (s.toggleAll ps).1.lit x y ≠ s.lit x y ↔ (x, y) ∈ ps := by
  induction ps generalizing s with
  | nil => simp [toggleAll]
  | cons p ps ih =>
    obtain ⟨x', y'⟩ := p
    obtain ⟨once, rest⟩ := List.nodup_cons.1 nodup
    rw [toggleAll]
    show ((s.modify x' y' not).toggleAll ps).1.lit x y ≠ _ ↔ _
    by_cases same : (x, y) = (x', y')
    · -- The pixel that has its turn now has none later.
      obtain ⟨rfl, rfl⟩ := Prod.mk.inj same
      have kept := not_not.1 (mt (ih (s := s.modify x y not) rest).1 once)
      rw [kept, lit_modify_self]
      exact ⟨fun _ ↦ List.mem_cons_self, fun _ ↦ Bool.not_ne_self _⟩
    · have other := lit_modify_of_pair_ne (s := s) not same
      rw [← other, ih rest, List.mem_cons, or_iff_right same]

/-- **Whether a pixel goes dark**: one of the list was lit before the first of them had its turn. -/
theorem toggleAll_eq_true_iff {ps : List (Fin width × Fin height)} (nodup : ps.Nodup) :
    (s.toggleAll ps).2 = true ↔ ∃ p ∈ ps, s.lit p.1 p.2 = true := by
  induction ps generalizing s with
  | nil => simp [toggleAll]
  | cons p ps ih =>
    obtain ⟨x, y⟩ := p
    obtain ⟨once, rest⟩ := List.nodup_cons.1 nodup
    have later : (∃ p ∈ ps, (s.modify x y not).lit p.1 p.2 = true) ↔
        ∃ p ∈ ps, s.lit p.1 p.2 = true := by
      refine exists_congr fun q ↦ and_congr_right fun member ↦ ?_
      have other : q ≠ (x, y) := fun same ↦ once (same ▸ member)
      rw [lit_modify_of_pair_ne not other]
    rw [toggleAll]
    show (s.lit x y || ((s.modify x y not).toggleAll ps).2) = true ↔ _
    rw [Bool.or_eq_true, ih rest, later]
    simp only [List.mem_cons, exists_eq_or_imp]

/-! ### Drawing a sprite -/

variable {hw : 0 < width} {hh : 0 < height}

/-- **A sprite toggles what it covers.** -/
theorem lit_drawSprite_ne_iff (columns : 8 ≤ width) (lines : rows.length ≤ height) :
    (s.drawSprite hw hh left top rows).1.lit x y ≠ s.lit x y ↔
      Sprite.Covers ⟨left, top, rows⟩ x y := by
  show (s.toggleAll (spritePixels hw hh left top rows)).1.lit x y ≠ _ ↔ _
  rw [lit_toggleAll_ne_iff (nodup_spritePixels hw hh columns lines), mem_spritePixels]

/-- A pixel is erased exactly if the sprite covers one that is lit. -/
theorem drawSprite_eq_true_iff (columns : 8 ≤ width) (lines : rows.length ≤ height) :
    (s.drawSprite hw hh left top rows).2 = true ↔ Sprite.Meets ⟨left, top, rows⟩ s := by
  show (s.toggleAll (spritePixels hw hh left top rows)).2 = true ↔ _
  rw [toggleAll_eq_true_iff (nodup_spritePixels hw hh columns lines), Prod.exists]
  simp only [mem_spritePixels, Sprite.Meets]

end Screen

/-! ### The word that draws -/

namespace State

variable {s : State} {w : Word}

/-- The sprite that a word draws: its place is in two registers, and its rows are the bytes from the
index register on, as many as the last nibble says. -/
def sprite (s : State) (w : Word) : Sprite where
  left := (s.v (Word.x w)).toNat
  top := (s.v (Word.y w)).toNat
  rows := (List.range (w.toNat % 0x10)).map fun r ↦ s.memory.cell (s.index.toNat + r)

/-- A state `t` is what a state `s` becomes when a word draws: the sprite is the one that `s` has,
so it makes no difference whether the flag register holds one of its coordinates. -/
structure Drawn (w : Word) (s t : State) : Prop where
  /-- The pixels that change are those that the sprite covers. -/
  pixels : ∀ x y, t.screen.lit x y ≠ s.screen.lit x y ↔ (s.sprite w).Covers x y
  /-- The flag tells whether one of them was lit. -/
  flag : t.v .flag = if (s.sprite w).Meets s.screen then 1 else 0
  pending : t.screen.dirty = true
  pc : t.pc.toNat = (s.pc.toNat + 2) % 0x10000
  index : t.index = s.index
  v : ∀ r, r ≠ .flag → t.v r = s.v r
  memory : t.memory = s.memory
  stack : t.stack = s.stack
  timers : t.timers = s.timers
  keypad : t.keypad = s.keypad
  mode : t.mode = s.mode
  waitRegister : t.waitRegister = s.waitRegister

/-- The screen after a word that draws, and whether a pixel was erased. -/
def drawing (s : State) (w : Word) : Screen Screen.standardWidth Screen.standardHeight × Bool :=
  s.screen.drawSprite Screen.width_pos Screen.height_pos (s.sprite w).left (s.sprite w).top
    (s.sprite w).rows

theorem length_rows_sprite (s : State) (w : Word) : (s.sprite w).rows.length = w.toNat % 0x10 := by
  rw [sprite, List.length_map, List.length_range]

/-- A word whose sprite lies within memory draws it. -/
theorem exec_drw (within : w.toNat % 0x10 = 0 ∨ s.index.toNat + w.toNat % 0x10 ≤ 4096) :
    ∃ e, s.exec (Opcode.drw.instr w) = .ok e ∧ e.state.screen = (s.drawing w).1 ∧
      e.state.v .flag = if (s.drawing w).2 then 1 else 0 := by
  have read : s.memory.readBytes s.index.toNat (Word.n w).val = .ok (s.sprite w).rows := by
    rw [Memory.readBytes_eq_ok_iff, Word.val_n]
    exact ⟨within, rfl⟩
  refine ⟨⟨({ s with screen := (s.drawing w).1 }.setFlag (s.drawing w).2).advance,
    [.draw s.pc.toNat (s.v (Word.x w)).toNat (s.v (Word.y w)).toNat (Word.n w).val
      (s.drawing w).2], []⟩, ?_, rfl, ?_⟩
  · show s.draw (Word.x w) (Word.y w) (Word.n w).val = _
    rw [draw, read]
    rfl
  · exact v_setV_self ..

/-- **A sprite that lies within memory is drawn.** -/
theorem exists_drawn_of_exec
    (within : w.toNat % 0x10 = 0 ∨ s.index.toNat + w.toNat % 0x10 ≤ 4096) :
    ∃ e, s.exec (Opcode.drw.instr w) = .ok e ∧ s.Drawn w e.state := by
  obtain ⟨e, exec, screen, flag⟩ := exec_drw within
  have lines : (s.sprite w).rows.length ≤ 32 := by
    rw [length_rows_sprite]
    omega
  have toggled (x : Fin 64) (y : Fin 32) :
      (s.drawing w).1.lit x y ≠ s.screen.lit x y ↔ (s.sprite w).Covers x y :=
    Screen.lit_drawSprite_ne_iff (by decide) lines
  have erased : (s.drawing w).2 = true ↔ (s.sprite w).Meets s.screen :=
    Screen.drawSprite_eq_true_iff (by decide) lines
  have frame := frame_of_exec exec
  have registers := registerFrame_of_exec exec
  have pc := Option.some.inj (following_of_exec exec)
  refine ⟨e, exec, ?pixels, ?flag, ?pending, pc.symm, registers.index rfl, ?v, frame.memory rfl,
    frame.stack rfl, frame.timers rfl, frame.keypad, frame.mode rfl, frame.waitRegister rfl⟩
  case pixels =>
    intro x y
    rw [screen, toggled]
  case flag => simp only [flag, erased]
  case pending => rw [screen]; rfl
  case v =>
    intro r other
    exact registers.v r (decide_eq_false other)

end State

namespace Machine

variable {m : Machine} {w : Word}

/-- **What a word that draws does.** -/
theorem drawn_of_execute (fits : Opcode.drw.Fits w)
    (within : w.toNat % 0x10 = 0 ∨ m.state.index.toNat + w.toNat % 0x10 ≤ 4096) :
    (m.execute w).answer = .ok w ∧ m.state.Drawn w (m.execute w).machine.state := by
  obtain ⟨e, exec, drawn⟩ := State.exists_drawn_of_exec within
  obtain ⟨answer, executed, state⟩ := completed_of_exec (decode_of_fits fits) exec
  rw [state]
  exact ⟨answer, { drawn with }⟩

/-- A machine whose flag register holds the column of a sprite that ends with the memory. The sprite
crosses two edges of the screen, and one of the pixels beyond them is lit. -/
def atCorner : Machine :=
  (standard 0x200).after [.writeMemory 0xFFE [0xFF, 0x81], .setIndex 0xFFE, .setRegister 0xF 62,
    .setRegister 1 31, .setPixel 5 0 true]

/-- Both rows are drawn, and the flag tells that one of their ten pixels was lit. -/
theorem drawn_at_corner :
    (atCorner.execute 0xDF12).answer = .ok 0xDF12 ∧
    atCorner.state.Drawn 0xDF12 (atCorner.execute 0xDF12).machine.state ∧
    (atCorner.execute 0xDF12).machine.state.v .flag = 1 ∧
    Screen.litCount (atCorner.execute 0xDF12).machine.state.screen.toLists = 9 := by
  obtain ⟨answer, drawn⟩ := @drawn_of_execute atCorner 0xDF12 (by decide) (.inr (by decide))
  exact ⟨answer, drawn, by decide +kernel, by decide +kernel⟩

end Machine

end Chip8
