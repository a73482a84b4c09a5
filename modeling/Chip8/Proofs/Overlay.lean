import Chip8.Proofs.DrawPending
import Chip8.Proofs.Drawing
import Chip8.Proofs.Edit
import Mathlib.Algebra.Ring.Parity
import Mathlib.Data.List.Forall2

/-!
# Sprites on top of each other

A sprite toggles what it covers. Of many sprites that are drawn one after the other only this is
left on the screen: a pixel has changed if the number of those that cover it is odd
(`Machine.lit_paint_ne_iff`). A number has no order, and two more do not make it odd. So sprites may
be drawn in any order, and two that are the same take each other back.

Which flags the machine sets on the way does depend on the order. But neither they nor the pixels
change when a sprite is moved by a whole screen in either direction (`Sprite.Congruent`), since it
covers the same positions as before. The main result is `Machine.overlay`.

A stroke is what a host sets and executes for one sprite. The two registers are any two, also the
flag register, or the same one twice, and the rows are anywhere in memory; no stroke writes there,
so what was held at the beginning is what every one of them draws.
-/

namespace Chip8

/-! ### Sprites that cover a position -/

namespace Sprite

variable {width height : Nat} {x : Fin width} {y : Fin height} {p q : Sprite} {ps qs : List Sprite}
  {s t : Screen width height}

/-- Sprites with the same rows at places that are whole screens apart. -/
structure Congruent (width height : Nat) (p q : Sprite) : Prop where
  left : p.left % width = q.left % width
  top : p.top % height = q.top % height
  rows : p.rows = q.rows

theorem Congruent.covers_iff (h : p.Congruent width height q) : p.Covers x y ↔ q.Covers x y := by
  have column (c : Nat) : (p.left + c) % width = (q.left + c) % width :=
    Nat.ModEq.add_right c h.left
  have line (r : Nat) : (p.top + r) % height = (q.top + r) % height :=
    Nat.ModEq.add_right r h.top
  simp only [Covers, column, line, h.rows]

theorem Congruent.meets_iff (h : p.Congruent width height q) (same : ∀ x y, s.lit x y = t.lit x y) :
    p.Meets s ↔ q.Meets t := by
  simp only [Meets, h.covers_iff, same]

/-- How many of some sprites cover a position. -/
def coverage (ps : List Sprite) (x : Fin width) (y : Fin height) : Nat :=
  ps.countP fun p ↦ p.Covers x y

/-- One sprite more makes odd even and even odd where it covers, and only there. -/
theorem odd_coverage_cons :
    Odd (coverage (p :: ps) x y) ↔ (p.Covers x y ↔ ¬Odd (coverage ps x y)) := by
  by_cases covered : p.Covers x y
  · have more : coverage (p :: ps) x y = coverage ps x y + 1 :=
      List.countP_cons_of_pos (decide_eq_true covered)
    rw [more, Nat.odd_add_one]
    tauto
  · have same : coverage (p :: ps) x y = coverage ps x y :=
      List.countP_cons_of_neg (ne_true_of_eq_false (decide_eq_false covered))
    rw [same]
    tauto

theorem coverage_perm (h : ps.Perm qs) : coverage ps x y = coverage qs x y := h.countP_eq _

/-- A sprite that comes twice makes no difference to whether a number is odd. -/
theorem odd_coverage_pair (before between rest : List Sprite) :
    Odd (coverage (before ++ p :: (between ++ p :: rest)) x y) ↔
      Odd (coverage (before ++ (between ++ rest)) x y) := by
  have front : (before ++ p :: (between ++ p :: rest)).Perm
      (p :: p :: (before ++ (between ++ rest))) := by
    refine List.perm_middle.trans (List.Perm.cons p ?_)
    rw [← List.append_assoc, ← List.append_assoc]
    exact List.perm_middle
  rw [coverage_perm front, odd_coverage_cons, odd_coverage_cons]
  tauto

end Sprite

/-! ### Strokes -/

/-- What a host needs for one sprite: two registers, the coordinates to put into them, the address
of the rows and how many there are. -/
structure Stroke where
  x : RegIndex
  y : RegIndex
  left : Byte
  top : Byte
  address : Word
  count : Nat
  few : count < 16
  /-- A register that is used twice holds one coordinate. -/
  same : x = y → left = top
  /-- The rows are held in memory. -/
  within : count = 0 ∨ address.toNat + count ≤ 4096

namespace Stroke

variable (d : Stroke)

/-- The word that draws. -/
def word : Word := BitVec.ofNat 16 (0xD000 + 0x100 * d.x.val + 0x10 * d.y.val + d.count)

/-- What the host sets before. -/
def settings : List Command :=
  [.setRegister d.x.val d.left.toNat, .setRegister d.y.val d.top.toNat, .setIndex d.address.toNat]

/-- All that the host does. -/
def commands : List Command := d.settings ++ [.execute d.word.toNat]

/-- The sprite that is drawn. -/
def sprite (memory : Memory Memory.standardSize) : Sprite where
  left := d.left.toNat
  top := d.top.toNat
  rows := (List.range d.count).map fun r ↦ memory.cell (d.address.toNat + r)

theorem toNat_word :
    d.word.toNat = 0xD000 + 0x100 * d.x.val + 0x10 * d.y.val + d.count := by
  have few := d.few
  rw [word, BitVec.toNat_ofNat]
  omega

theorem fits_word : Opcode.drw.Fits d.word := by
  have few := d.few
  show d.word.toNat / 0x1000 = 0xD
  rw [toNat_word]
  omega

@[simp] theorem x_word : Word.x d.word = d.x := by
  have few := d.few
  refine Fin.ext ?_
  rw [Word.val_x, toNat_word]
  omega

@[simp] theorem y_word : Word.y d.word = d.y := by
  have few := d.few
  refine Fin.ext ?_
  rw [Word.val_y, toNat_word]
  omega

@[simp] theorem toNat_word_mod : d.word.toNat % 0x10 = d.count := by
  have few := d.few
  rw [toNat_word]
  omega

/-- A state with what the host sets. -/
def ready (s : State) : State := ((s.setV d.x d.left).setV d.y d.top).setIndex d.address

/-- The sprite that the word draws then. -/
theorem sprite_ready (s : State) : (d.ready s).sprite d.word = d.sprite s.memory := by
  have left : (d.ready s).v d.x = d.left := by
    show ((s.setV d.x d.left).setV d.y d.top).v d.x = d.left
    by_cases same : d.x = d.y
    · rw [same, State.v_setV_self, d.same same]
    · rw [State.v_setV_of_ne _ same, State.v_setV_self]
  have top : (d.ready s).v d.y = d.top := State.v_setV_self ..
  rw [State.sprite, sprite, x_word, y_word, toNat_word_mod, left, top]
  rfl

end Stroke

namespace Machine

variable {m n : Machine} {d : Stroke} {ds es : List Stroke}

/-- The machine after some strokes, one after the other. -/
def paint (m : Machine) (ds : List Stroke) : Machine := m.after (ds.flatMap Stroke.commands)

/-- What the flag register holds after each of some strokes. -/
def flags (m : Machine) : List Stroke → List Byte
  | [] => []
  | d :: ds => (m.after d.commands).state.v .flag :: (m.after d.commands).flags ds

/-- The sprites of some strokes. -/
def sprites (m : Machine) (ds : List Stroke) : List Sprite := ds.map (·.sprite m.state.memory)

theorem paint_cons : m.paint (d :: ds) = (m.after d.commands).paint ds := by
  rw [paint, List.flatMap_cons, after, List.foldl_append]
  rfl

theorem state_after_settings : (m.after d.settings).state = d.ready m.state := by
  rw [Stroke.settings]
  simp only [after, List.foldl_cons, List.foldl_nil, perform_setRegister, perform_setIndex]
  rfl

theorem after_commands :
    m.after d.commands = ((m.after d.settings).execute d.word).machine := by
  have performed : ((m.after d.settings).perform (.execute d.word.toNat)).machine =
      ((m.after d.settings).execute d.word).machine := by
    rw [perform, Word.ofInt_toNat]
    rfl
  rw [Stroke.commands, after, List.foldl_append, ← performed]
  rfl

/-! ### One stroke -/

/-- A state `t` is what a state `s` becomes when a sprite is drawn over what is on the screen. -/
structure Overlaid (p : Sprite) (s t : State) : Prop where
  pixels : ∀ x y, t.screen.lit x y ≠ s.screen.lit x y ↔ p.Covers x y
  flag : t.v .flag = if p.Meets s.screen then 1 else 0
  memory : t.memory = s.memory

/-- **One stroke draws its sprite.** -/
theorem overlaid_of_stroke (m : Machine) (d : Stroke) :
    ((m.after d.settings).execute d.word).answer = .ok d.word ∧
      Overlaid (d.sprite m.state.memory) m.state (m.after d.commands).state := by
  have within : d.word.toNat % 0x10 = 0 ∨
      (m.after d.settings).state.index.toNat + d.word.toNat % 0x10 ≤ 4096 := by
    rw [state_after_settings, d.toNat_word_mod]
    exact d.within
  obtain ⟨answer, drawn⟩ := drawn_of_execute d.fits_word within
  rw [state_after_settings] at drawn
  have same := d.sprite_ready m.state
  refine ⟨answer, ?_⟩
  rw [after_commands, ← same]
  exact ⟨drawn.pixels, drawn.flag, drawn.memory⟩

/-- Of three values of a pixel the last differs from the first if just one of two steps changes
it. -/
theorem ne_iff_of_steps (a b c : Bool) : c ≠ a ↔ (b ≠ a ↔ ¬c ≠ b) := by
  revert a b c
  decide

theorem eq_of_ne_iff_ne (a b c : Bool) (h : b ≠ a ↔ c ≠ a) : b = c := by
  revert a b c
  decide

/-- A stroke leaves the sprites of the others as they are. -/
theorem sprites_after_commands : (m.after d.commands).sprites ds = m.sprites ds := by
  rw [sprites, (overlaid_of_stroke m d).2.memory]
  rfl

/-! ### Many strokes -/

/-- **A pixel has changed if the number of sprites that cover it is odd.** -/
theorem lit_paint_ne_iff (x : Fin 64) (y : Fin 32) :
    (m.paint ds).state.screen.lit x y ≠ m.state.screen.lit x y ↔
      Odd (Sprite.coverage (m.sprites ds) x y) := by
  induction ds generalizing m with
  | nil => exact iff_of_false (not_not.2 rfl) Nat.not_odd_zero
  | cons d ds ih =>
    have first := (overlaid_of_stroke m d).2.pixels x y
    -- The first stroke writes no memory, so the others draw what they would have drawn without it.
    have others := ih (m := m.after d.commands)
    rw [sprites_after_commands] at others
    have sprites : m.sprites (d :: ds) = d.sprite m.state.memory :: m.sprites ds := rfl
    rw [paint_cons, sprites, Sprite.odd_coverage_cons, ← first, ← others]
    exact ne_iff_of_steps ..

/-- Every command of a stroke is done. -/
theorem exists_reply_of_mem_run {o : Outcome Refusal Reply}
    (h : o ∈ m.run (ds.flatMap Stroke.commands)) : ∃ reply, o.answer = .ok reply := by
  induction ds generalizing m with
  | nil => cases h
  | cons d ds ih =>
    simp only [List.flatMap_cons, Stroke.commands, Stroke.settings, List.cons_append,
      List.nil_append, run, List.mem_cons] at h
    rcases h with rfl | rfl | rfl | rfl | later
    · rw [perform_setRegister]
      exact ⟨_, rfl⟩
    · rw [perform_setRegister]
      exact ⟨_, rfl⟩
    · rw [perform_setIndex]
      exact ⟨_, rfl⟩
    · have answer := (overlaid_of_stroke m d).1
      refine ⟨.instruction (some d.word), ?_⟩
      show ((m.after d.settings).perform (.execute d.word.toNat)).answer = _
      rw [perform, Word.ofInt_toNat]
      show (((m.after d.settings).execute d.word).answer.mapError _).map _ = _
      rw [answer]
      rfl
    · exact ih later

/-- Screens with the same pixels. -/
theorem pixels_eq_of_lit (same : ∀ x y, m.state.screen.lit x y = n.state.screen.lit x y) :
    m.pixels = n.pixels := by
  refine Vector.ext fun y below ↦ Vector.ext fun x inside ↦ ?_
  exact same ⟨x, inside⟩ ⟨y, below⟩

/-- Two ways to paint lead to the same pixels, if each position is covered an odd number of times in
both or in neither. -/
theorem pixels_paint_eq
    (parity : ∀ (x : Fin 64) (y : Fin 32), Odd (Sprite.coverage (m.sprites ds) x y) ↔
      Odd (Sprite.coverage (m.sprites es) x y)) :
    (m.paint ds).pixels = (m.paint es).pixels := by
  refine pixels_eq_of_lit fun x y ↦ ?_
  have changed : (m.paint ds).state.screen.lit x y ≠ m.state.screen.lit x y ↔
      (m.paint es).state.screen.lit x y ≠ m.state.screen.lit x y := by
    rw [lit_paint_ne_iff, lit_paint_ne_iff, parity]
  exact eq_of_ne_iff_ne _ _ _ changed

/-- Strokes that differ by whole screens, on machines that show the same, set the same flags, and
the machines go on showing the same. -/
theorem overlaid_alike (memory : Memory Memory.standardSize)
    (moved : List.Forall₂ (fun d e ↦ (d.sprite memory).Congruent 64 32 (e.sprite memory)) ds es) :
    ∀ {m n : Machine}, m.state.memory = memory → n.state.memory = memory →
      (∀ x y, m.state.screen.lit x y = n.state.screen.lit x y) →
      (m.paint ds).pixels = (n.paint es).pixels ∧ m.flags ds = n.flags es := by
  -- What carries the induction is that both machines show the same before every draw: the flag
  -- depends on what is on the screen, and not only on the sprites.
  induction moved with
  | nil =>
    intro m n hm hn same
    exact ⟨pixels_eq_of_lit same, rfl⟩
  | @cons d e ds es congruent moved ih =>
    intro m n hm hn same
    have left := (overlaid_of_stroke m d).2
    have right := (overlaid_of_stroke n e).2
    rw [hm] at left
    rw [hn] at right
    have still (x : Fin 64) (y : Fin 32) : (m.after d.commands).state.screen.lit x y =
        (n.after e.commands).state.screen.lit x y := by
      refine eq_of_ne_iff_ne (m.state.screen.lit x y) _ _ ?_
      rw [left.pixels, congruent.covers_iff, ← right.pixels, same]
    have flag : (m.after d.commands).state.v .flag = (n.after e.commands).state.v .flag := by
      rw [left.flag, right.flag]
      simp only [congruent.meets_iff same]
    obtain ⟨pixels, flags⟩ := ih (left.memory.trans hm) (right.memory.trans hn) still
    rw [paint_cons, paint_cons, Machine.flags, Machine.flags, flag, flags]
    exact ⟨pixels, rfl⟩

/-- **Sprites drawn one after the other.** All of them are drawn, and the pixels that change are
those that an odd number of them covers. The same sprites in another order lead to the same pixels;
two sprites that are the same can be left out, wherever they stand; and sprites that are moved by
whole screens lead to the same pixels and, draw by draw, the same flags. -/
theorem overlay (m : Machine) :
    (∀ ds : List Stroke, ∀ o ∈ m.run (ds.flatMap Stroke.commands), ∃ reply, o.answer = .ok reply) ∧
    (∀ ds x y, (m.paint ds).state.screen.lit x y ≠ m.state.screen.lit x y ↔
      Odd (Sprite.coverage (m.sprites ds) x y)) ∧
    (∀ ds es, (m.sprites ds).Perm (m.sprites es) → (m.paint ds).pixels = (m.paint es).pixels) ∧
    (∀ before d between e rest, d.sprite m.state.memory = e.sprite m.state.memory →
      (m.paint (before ++ d :: (between ++ e :: rest))).pixels =
        (m.paint (before ++ (between ++ rest))).pixels) ∧
    ∀ ds es, List.Forall₂ (fun d e ↦ (d.sprite m.state.memory).Congruent 64 32
        (e.sprite m.state.memory)) ds es →
      (m.paint ds).pixels = (m.paint es).pixels ∧ m.flags ds = m.flags es := by
  refine ⟨fun ds o ↦ exists_reply_of_mem_run, fun ds ↦ lit_paint_ne_iff, ?order, ?twice, ?moved⟩
  case order =>
    intro ds es perm
    refine pixels_paint_eq fun x y ↦ ?_
    rw [Sprite.coverage_perm perm]
  case twice =>
    intro before d between e rest equal
    refine pixels_paint_eq fun x y ↦ ?_
    simp only [sprites, List.map_append, List.map_cons, equal]
    exact Sprite.odd_coverage_pair ..
  case moved =>
    intro ds es moved
    exact overlaid_alike m.state.memory moved rfl rfl fun _ _ ↦ rfl

/-- A zero across the corner of the screen. -/
def cornerZero : Stroke where
  x := .first
  y := .flag
  left := 62
  top := 30
  address := 0
  count := 5
  few := by decide
  same := nofun
  within := by decide

/-- The same two screens to the right and three further down, from the same registers in the other
order. -/
def farZero : Stroke where
  x := .flag
  y := .first
  left := 190
  top := 126
  address := 0
  count := 5
  few := by decide
  same := nofun
  within := by decide

/-- A one on top of it, with both coordinates in the flag register. -/
def oneOnTop : Stroke where
  x := .flag
  y := .flag
  left := 62
  top := 62
  address := 5
  count := 5
  few := by decide
  same := fun _ ↦ rfl
  within := by decide

/-- The two in either order; the zero once before and once after the one; the zero moved. -/
theorem overlay_at_corner :
    (∀ o ∈ (standard 0x200).run ([cornerZero, oneOnTop].flatMap Stroke.commands),
      ∃ reply, o.answer = .ok reply) ∧
    ((standard 0x200).paint [cornerZero, oneOnTop]).pixels =
      ((standard 0x200).paint [oneOnTop, cornerZero]).pixels ∧
    ((standard 0x200).paint [cornerZero, oneOnTop, cornerZero]).pixels =
      ((standard 0x200).paint [oneOnTop]).pixels ∧
    ((standard 0x200).paint [cornerZero, oneOnTop]).pixels =
      ((standard 0x200).paint [farZero, oneOnTop]).pixels ∧
    (standard 0x200).flags [farZero, oneOnTop] = (standard 0x200).flags [cornerZero, oneOnTop] ∧
    (standard 0x200).flags [cornerZero, oneOnTop] = [0, 1] ∧
    Screen.litCount ((standard 0x200).paint [cornerZero, oneOnTop]).state.screen.toLists = 14 := by
  obtain ⟨done, -, order, twice, moved⟩ := overlay (standard 0x200)
  have same : (cornerZero.sprite (standard 0x200).state.memory).Congruent 64 32
      (farZero.sprite (standard 0x200).state.memory) := ⟨rfl, rfl, rfl⟩
  obtain ⟨pixels, flags⟩ := moved [cornerZero, oneOnTop] [farZero, oneOnTop]
    (.cons same (.cons ⟨rfl, rfl, rfl⟩ .nil))
  refine ⟨done _, order _ _ (.swap ..), ?_, pixels, flags.symm, by decide +kernel,
    by decide +kernel⟩
  exact twice [] cornerZero [oneOnTop] cornerZero [] rfl

end Machine

end Chip8
