import Chip8.Proofs.Arithmetic
import Chip8.Proofs.Image

/-!
# Instructions on plain numbers

An instruction does to the numbers of a state what it does to the state. Beside each handler stands
its equation (`Bare.run_ret`, `Bare.run_arithmetic`, `Bare.run_draw` and so on), which is put
together from those of its accesses, and all of them together are `Bare.run_handler`.

The operations on two registers have no mask from `setV`. They write a number modulo 256, and this
is the number of the byte that the operation on bytes comes to: a sum that is too great and a
difference below zero lose the same multiples of 256 in both (`Bare.operate_toNat`). Fetching writes
without any mask, and what it writes are bytes of memory (`Bare.run_fill`).

A sprite is drawn pixel by pixel, each at coordinates that are reduced before they are checked. So
no flip is refused (`Bare.run_flip_wrapped`), and a row comes to the pixels that it toggles one
after the other (`Bare.run_flipRow`).
-/

namespace Chip8.Bare

/-! ### Operands -/

section Operands

variable (w : Word)

theorem x_ofWord_toNat : (Fields.ofWord w.toNat).x = ((Word.x w).val : Int) := by
  rw [Word.val_x]
  rfl

theorem y_ofWord_toNat : (Fields.ofWord w.toNat).y = ((Word.y w).val : Int) := by
  rw [Word.val_y]
  rfl

theorem n_ofWord_toNat : (Fields.ofWord w.toNat).n = ((Word.n w).val : Int) := by
  rw [Word.val_n]
  rfl

theorem nn_ofWord_toNat : (Fields.ofWord w.toNat).nn = ((Word.nn w).toNat : Int) := by
  rw [Word.toNat_nn]
  rfl

theorem nnn_ofWord_toNat : (Fields.ofWord w.toNat).nnn = ((Word.nnn w).toNat : Int) := by
  rw [Word.toNat_nnn]
  rfl

/-- The number of some bits as a word. -/
theorem ofInt_setWidth {n : Nat} (b : BitVec n) : Word.ofInt b.toNat = b.setWidth 16 := by
  rw [Word.ofInt, BitVec.ofInt_natCast, BitVec.ofNat_toNat]

end Operands

/-! ### Operations on two registers -/

/-- The number of a byte is not changed by a mask. -/
theorem toNat_emod (b : Byte) : (b.toNat : Int) % 256 = b.toNat := by
  have below := b.isLt
  omega

theorem land_toNat (a b : Byte) : Int.land a.toNat b.toNat = ((a &&& b).toNat : Int) := by
  rw [BitVec.toNat_and]
  rfl

theorem lor_toNat (a b : Byte) : Int.lor a.toNat b.toNat = ((a ||| b).toNat : Int) := by
  rw [BitVec.toNat_or]
  rfl

theorem xor_toNat (a b : Byte) : Int.xor a.toNat b.toNat = ((a ^^^ b).toNat : Int) := by
  rw [BitVec.toNat_xor]
  rfl

theorem decide_lt_toNat (a b : Byte) :
    decide ((a.toNat : Int) < b.toNat) = decide (a < b) := by
  rw [decide_eq_decide, BitVec.lt_def]
  exact Int.ofNat_lt

theorem flagOf_decide (p : Prop) [Decidable p] : flagOf (decide p) = if p then 1 else 0 := by
  rw [flagOf]
  simp only [decide_eq_true_eq]

/-- **An operation on numbers comes to the byte and the flag of the operation on bytes.** -/
theorem operate_toNat (op : Alu) (a b : Byte) :
    (operate op a.toNat b.toNat).1 % 256 = ((op.apply a b).1.toNat : Int) ∧
      (operate op a.toNat b.toNat).2 = (op.apply a b).2.map flagOf := by
  have ha := a.isLt
  have hb := b.isLt
  cases op with
  | copy => exact ⟨toNat_emod b, rfl⟩
  | or =>
    rw [operate, lor_toNat]
    exact ⟨toNat_emod _, rfl⟩
  | and =>
    rw [operate, land_toNat]
    exact ⟨toNat_emod _, rfl⟩
  | xor =>
    rw [operate, xor_toNat]
    exact ⟨toNat_emod _, rfl⟩
  | add =>
    have flag : decide (255 < (a.toNat : Int) + b.toNat) = decide (255 < a.toNat + b.toNat) := by
      rw [decide_eq_decide]
      omega
    rw [operate, flag]
    refine ⟨?_, rfl⟩
    show _ = ((a + b).toNat : Int)
    rw [BitVec.toNat_add]
    rfl
  | sub =>
    rw [operate, decide_lt_toNat]
    refine ⟨?_, rfl⟩
    -- A difference below zero and that of the bytes differ by 256.
    show _ = ((a - b).toNat : Int)
    rw [Byte.toNat_sub_eq]
    omega
  | subn =>
    rw [operate, decide_lt_toNat]
    refine ⟨?_, rfl⟩
    show _ = ((b - a).toNat : Int)
    rw [Byte.toNat_sub_eq]
    omega
  | shr =>
    have flag : (a.toNat : Int) % 2 = flagOf (a.getLsbD 0) := by
      rw [Byte.getLsbD_zero, flagOf_decide]
      split <;> omega
    rw [operate, flag, Int.shiftRight_eq_div_pow]
    refine ⟨?_, rfl⟩
    show _ = ((a >>> 1).toNat : Int)
    rw [Byte.toNat_shiftRight_one]
    omega
  | shl =>
    have flag : (a.toNat : Int) >>> (7 : Nat) % 2 = flagOf (a.getMsbD 0) := by
      rw [Byte.getMsbD_zero, flagOf_decide, Int.shiftRight_eq_div_pow]
      split <;> omega
    rw [operate, flag, Int.shiftLeft_eq]
    refine ⟨?_, rfl⟩
    show _ = ((a <<< 1).toNat : Int)
    rw [Byte.toNat_shiftLeft_one]
    omega

section Handlers

variable (s : Chip8.State) (l : Option Word)

theorem run_skipIf (skip : Bool) :
    (skipIf skip).run (s.bare l) = .ok () ((s.advanceSkipping skip).bare l) := by
  rw [skipIf, run_advance, State.advanceSkipping]
  cases skip with
  | true => rfl
  | false => rfl

/-- Numbers of bits are the same if the bits are. -/
theorem beq_toNat {n : Nat} (a b : BitVec n) : ((a.toNat : Int) == (b.toNat : Int)) = (a == b) := by
  rw [Bool.eq_iff_iff, beq_iff_eq, beq_iff_eq]
  exact ⟨fun h ↦ BitVec.eq_of_toNat_eq (by omega), fun h ↦ by rw [h]⟩

theorem run_arithmetic (op : Alu) (x y : RegIndex) :
    (arithmetic op x.val y.val).run (s.bare l) =
      .ok () ((s.finish x (op.apply (s.v x) (s.v y)).1 (op.apply (s.v x) (s.v y)).2).bare l) := by
  obtain ⟨result, flag⟩ := operate_toNat op (s.v x) (s.v y)
  rw [arithmetic, EStateM.run_bind, run_readV]
  -- Both operands are read by now, so the flag may be written to either of them.
  simp only [EStateM.run_bind, run_readV, flag]
  cases (op.apply (s.v x) (s.v y)).2 with
  | none =>
    simp only [Option.map_none, EStateM.run_bind, run_writeV s l x result, run_advance_two]
    rfl
  | some raised =>
    have flagged : (writeV 15 (flagOf raised)).run (s.bare l) =
        .ok () ((s.setFlag raised).bare l) := by
      cases raised with
      | false => exact run_writeV s l .flag rfl
      | true => exact run_writeV s l .flag rfl
    simp only [Option.map_some, EStateM.run_bind, flagged, run_writeV (s.setFlag raised) l x result,
      run_advance_two]
    rfl

theorem run_ret : ret.run (s.bare l) = ending s l ((s.exec .ret).map fun e ↦ ((), e.state)) := by
  rw [ret, EStateM.run_bind, Access.run_part, State.exec]
  simp only [EStateM.run_bind, pc_bare, run_pop]
  cases s.stack.pop s.pc.toNat with
  | error f => rfl
  | ok r =>
    simp only [Except.map, ending, run_setPc, Word.ofInt_toNat]
    rfl

theorem run_call (target : Target) :
    (call target.toNat).run (s.bare l) =
      ending s l ((s.exec (.call target)).map fun e ↦ ((), e.state)) := by
  rw [call, EStateM.run_bind, Access.run_part, State.exec]
  simp only [EStateM.run_bind, pc_bare, run_push]
  cases s.stack.push (s.pc.toNat + 2) s.pc.toNat with
  | error f => rfl
  | ok stack =>
    simp only [Except.map, ending, run_setPc, ofInt_setWidth]
    rfl

theorem run_skipKey (down : Bool) (x : RegIndex) :
    (skipKey down x.val).run (s.bare l) =
      ending s l ((s.exec (.skipKey down x)).map fun e ↦ ((), e.state)) := by
  rw [skipKey, EStateM.run_bind, run_readV, State.exec]
  simp only [EStateM.run_bind, run_isDown]
  cases s.keypad.isDown (s.v x).toNat with
  | error f => rfl
  | ok isDown =>
    show _ = EStateM.Result.ok () ((s.advanceSkipping (isDown == down)).bare l)
    simp only [Except.map, ending]
    cases isDown == down with
    | true =>
      rw [← State.advance_advance]
      simp only [if_true, EStateM.run_bind, run_advance_two]
    | false =>
      simp only [Bool.false_eq_true, if_false, run_advance_two]
      rfl

/-! ### Drawing -/

/-- The bit of a sprite row at an offset from the left. -/
theorem testBit_eq_getMsbD (row : Byte) {c : Nat} (h : c < Screen.spriteWidth) :
    (row.toNat : Int).testBit (7 - c) = row.getMsbD c := by
  have inside : c < 8 := h
  rw [BitVec.getMsbD, decide_eq_true inside, Bool.true_and]
  rfl

/-- **A flip at reduced coordinates is never refused.** -/
theorem run_flip_wrapped (left top c : Nat) :
    (flip (((left : Int) + c) % Screen.standardWidth) ((top : Int) % Screen.standardHeight)).run
        (s.bare l) =
      .ok (!s.screen.lit (Action.pixel (left + c) top).1 (Action.pixel (left + c) top).2)
        (State.bare { s with
          screen := s.screen.modify (Action.pixel (left + c) top).1 (Action.pixel (left + c) top).2
            not } l) := by
  have flipped := s.screen.flip_val (Action.pixel (left + c) top).1 (Action.pixel (left + c) top).2
  have column : ((left : Int) + c) % Screen.standardWidth =
      ((Action.pixel (left + c) top).1.val : Int) := rfl
  have row : (top : Int) % Screen.standardHeight =
      ((Action.pixel (left + c) top).2.val : Int) := rfl
  rw [run_flip, column, row, flipped]
  rfl

variable {s}

theorem run_flipRow (left top : Nat) (row : Byte) {cs : List Nat}
    (inside : ∀ c ∈ cs, c < Screen.spriteWidth) (erased : Bool) :
    (flipRow left top row.toNat cs erased).run (s.bare l) =
      .ok (erased || (s.screen.toggleAll (Action.rowPixels left top row cs)).2)
        (State.bare { s with
          screen := (s.screen.toggleAll (Action.rowPixels left top row cs)).1 } l) := by
  -- `erased` is what the offsets before have come to.
  induction cs generalizing erased s with
  | nil =>
    rw [Action.rowPixels, List.filter_nil, List.map_nil, Screen.toggleAll, Bool.or_false]
    rfl
  | cons c cs ih =>
    rw [List.forall_mem_cons] at inside
    rw [flipRow, testBit_eq_getMsbD row inside.1]
    by_cases h : row.getMsbD c = true
    · have pixels : Action.rowPixels left top row (c :: cs) =
          Action.pixel (left + c) top :: Action.rowPixels left top row cs := by
        simp [Action.rowPixels, h]
      rw [if_pos h, EStateM.run_bind, run_flip_wrapped, pixels]
      simp only [ih inside.2, Screen.toggleAll, Bool.not_not, Bool.or_assoc]
    · have pixels : Action.rowPixels left top row (c :: cs) = Action.rowPixels left top row cs := by
        simp [Action.rowPixels, h]
      rw [if_neg h, ih inside.2, pixels]

theorem run_flipRows (left top : Nat) (rows : List Byte) (erased : Bool) :
    (flipRows left top (numbers rows) erased).run (s.bare l) =
      .ok (erased || (s.screen.toggleAll (Action.spritePixels left top rows)).2)
        (State.bare { s with
          screen := (s.screen.toggleAll (Action.spritePixels left top rows)).1 } l) := by
  induction rows generalizing top erased s with
  | nil =>
    rw [Action.spritePixels, Screen.spritePixels, Screen.toggleAll, Bool.or_false]
    rfl
  | cons row rows ih =>
    have pixels : Action.spritePixels left top (row :: rows) =
        Action.rowPixels left top row (List.range Screen.spriteWidth) ++
          Action.spritePixels left (top + 1) rows := rfl
    have inside : ∀ c ∈ List.range Screen.spriteWidth, c < Screen.spriteWidth :=
      fun _ mem ↦ List.mem_range.1 mem
    have flipped := run_flipRow (s := s) l left top row inside erased
    rw [numbers, List.map_cons, flipRows, EStateM.run_bind, flipped, pixels,
      Screen.toggleAll_append]
    show (flipRows left (top + 1 : Nat) (numbers rows) _).run _ = _
    rw [ih, Bool.or_assoc]

variable (s)

theorem run_draw (x y : RegIndex) (rows : Nat) :
    (draw x.val y.val rows).run (s.bare l) =
      ending s l ((s.draw x y rows).map fun e ↦ ((), e.state)) := by
  rw [draw, EStateM.run_bind, run_readV]
  simp only [EStateM.run_bind, run_readV, Access.run_part, index_bare, run_readBytes]
  cases read : s.memory.readBytes s.index.toNat rows with
  | error f =>
    rw [State.draw, read]
    rfl
  | ok sprite =>
    have lowered : (setFlag 0).run (s.bare l) = .ok () ((s.setFlag false).bare l) :=
      run_setFlag s l false
    have screen_setFlag : (s.setFlag false).screen = s.screen := rfl
    simp only [Except.map, ending, lowered, run_flipRows, Bool.false_or, screen_setFlag]
    rcases toggled : s.screen.toggleAll
      (Action.spritePixels (s.v x).toNat (s.v y).toNat sprite) with ⟨screen, erased⟩
    rw [Action.draw_of_readBytes read toggled]
    cases erased with
    | false => rfl
    | true =>
      -- the flag is lowered first and raised at the end; only the second write is left
      have flags := State.setFlag_setFlag { s with screen := screen.markDirty } false true
      rw [← flags]
      show (do
        setFlag (flagOf true)
        setDirty true
        advance 2 : Action Unit).run (State.bare { s.setFlag false with screen } l) = _
      rw [EStateM.run_bind, run_setFlag]
      rfl

/-! ### Keys and the index register -/

/-- A key as a byte. -/
theorem ofInt_key (key : Fin 16) : Byte.ofInt key.val = BitVec.ofNat 8 key := by
  rw [Byte.ofInt, BitVec.ofInt_natCast]

theorem run_awaitKey (x : RegIndex) :
    (awaitKey x.val).run (s.bare l) = .ok () ((s.awaitKey x).state.bare l) := by
  rw [awaitKey, EStateM.run_bind, run_highest?, State.awaitKey]
  cases s.keypad.highest? with
  | none => rfl
  | some key =>
    simp only [Option.map_some, EStateM.run_bind, run_setV, run_advance_two, ofInt_key]
    rfl

/-- While there is no key, or no register for it, the wait goes on. -/
theorem run_pollKey_of_waiting (idle : s.keypad.highest? = none ∨ s.waitRegister = none) :
    pollKey.run (s.bare l) = .ok false (s.bare l) := by
  rw [pollKey, EStateM.run_bind, Access.run_part]
  simp only [EStateM.run_bind, run_highest?]
  rcases idle with up | nowhere
  · rw [up]
    rfl
  · have register : (s.bare l).waitRegister = none := by rw [State.bare, nowhere, Option.map_none]
    rw [register]
    cases s.keypad.highest? with
    | none => rfl
    | some key => rfl

/-- **A key ends the wait.** -/
theorem run_pollKey_of_key {x : RegIndex} {key : Fin 16} (down : s.keypad.highest? = some key)
    (register : s.waitRegister = some x) :
    pollKey.run (s.bare l) =
      .ok true ((State.setV { s with mode := .running, waitRegister := none } x
        (BitVec.ofNat 8 key)).advance.bare l) := by
  have number : (s.bare l).waitRegister = some (x.val : Int) := by
    rw [State.bare, register, Option.map_some]
  rw [pollKey, EStateM.run_bind, Access.run_part]
  simp only [EStateM.run_bind, run_highest?, down, number, Option.map_some, run_setV, ofInt_key,
    Access.run_change]
  rfl

theorem run_addIndex (x : RegIndex) :
    (addIndex x.val).run (s.bare l) =
      ending s l ((s.exec (.addIndex x)).map fun e ↦ ((), e.state)) := by
  have total : ((s.index.toNat : Int) + (s.v x).toNat) =
      (s.index.toNat + (s.v x).toNat : Nat) := rfl
  have flag : decide ((Memory.addressMask : Int) < (s.index.toNat + (s.v x).toNat : Nat)) =
      decide (Memory.addressMask < s.index.toNat + (s.v x).toNat) := by
    rw [decide_eq_decide]
    exact Int.ofNat_lt
  rw [addIndex, EStateM.run_bind, Access.run_part]
  simp only [EStateM.run_bind, run_readV, index_bare, total, flag, run_setFlag, run_setIndex,
    run_advance_two, Word.ofInt, BitVec.ofInt_natCast]
  rfl

/-! ### Filling registers -/

variable {s} in
theorem run_fill {i : Nat} {bytes : List Byte} (room : i + bytes.length ≤ 16) :
    (fill i (numbers bytes)).run (s.bare l) = .ok () ((s.putV i bytes).bare l) := by
  induction bytes generalizing i s with
  | nil => rfl
  | cons b bs ih =>
    rw [List.length_cons] at room
    have here : i < 16 := by omega
    have rest := ih (s := s.setV ⟨i, here⟩ b) (i := i + 1) (by omega)
    rw [numbers, List.map_cons, fill, EStateM.run_bind, run_writeV s l ⟨i, here⟩ rfl,
      State.putV, dif_pos here, ← rest]
    rfl

/-! ### Transfers -/

theorem run_digits (x : RegIndex) :
    (do
      let value : Int := (s.v x).toNat
      writeBytes (← Access.part).index [value / 100, value / 10 % 10, value % 10]
      advance 2 : Action Unit).run (s.bare l) =
        ending s l ((s.exec (.digits x)).map fun e ↦ ((), e.state)) := by
  have digits : [((s.v x).toNat : Int) / 100, ((s.v x).toNat : Int) / 10 % 10,
      ((s.v x).toNat : Int) % 10].map Byte.ofInt = Byte.digits (s.v x) := by
    simp only [List.map_cons, List.map_nil, Byte.ofInt]
    rfl
  rw [EStateM.run_bind, Access.run_part, State.exec]
  simp only [EStateM.run_bind, index_bare, run_writeBytes, digits]
  cases s.memory.writeBytes s.index.toNat (Byte.digits (s.v x)) with
  | error f => rfl
  | ok memory => exact run_advance_two { s with memory } l

theorem run_store (x : RegIndex) :
    (do
      let s ← Access.part
      writeBytes s.index (Sequence.slice s.registers 0 (x.val + 1))
      advance 2 : Action Unit).run (s.bare l) =
        ending s l ((s.exec (.store x)).map fun e ↦ ((), e.state)) := by
  have registers : Sequence.slice (s.bare l).registers 0 (x.val + 1) =
      numbers (s.registers.v.toList.take (x.val + 1)) := by
    have inside : 0 + (x.val + 1) ≤ (numbers s.registers.v.toList).length := by
      rw [length_numbers, Vector.length_toList]
      omega
    have sliced := Sequence.slice_of_within inside
    rw [Int.natCast_zero, Int.zero_add, List.drop_zero, numbers, ← List.map_take] at sliced
    exact sliced
  rw [EStateM.run_bind, Access.run_part, State.exec]
  simp only [EStateM.run_bind, registers, index_bare, run_writeBytes, map_ofInt_numbers]
  cases s.memory.writeBytes s.index.toNat (s.registers.v.toList.take (x.val + 1)) with
  | error f => rfl
  | ok memory => exact run_advance_two { s with memory } l

theorem run_fetch (x : RegIndex) :
    (do
      fill 0 (← readBytes (← Access.part).index (x.val + 1))
      advance 2 : Action Unit).run (s.bare l) =
        ending s l ((s.exec (.fetch x)).map fun e ↦ ((), e.state)) := by
  rw [EStateM.run_bind, Access.run_part, State.exec]
  simp only [EStateM.run_bind, index_bare, run_readBytes]
  cases read : s.memory.readBytes s.index.toNat (x.val + 1) with
  | error f => rfl
  | ok bytes =>
    have listed := (Memory.readBytes_eq_ok_iff (k := x.val + 1)).1 read
    have room : 0 + bytes.length ≤ 16 := by
      rw [← listed.2, List.length_map, List.length_range]
      omega
    have filled : (fill 0 (numbers bytes)).run (s.bare l) = .ok () ((s.putV 0 bytes).bare l) :=
      run_fill l room
    simp only [Except.map, ending, filled]
    exact run_advance_two _ l

/-! ### Whole instructions -/

/-- **An instruction does to the numbers what it does to the state**, and nothing at all if it is
refused. -/
theorem run_handler (w : Word) (op : Opcode) :
    (handler (.ofWord w.toNat) op).run (s.bare l) =
      ending s l ((s.exec (op.instr w)).map fun e ↦ ((), e.state)) := by
  have x := x_ofWord_toNat w
  have y := y_ofWord_toNat w
  have nn := nn_ofWord_toNat w
  have nnn := nnn_ofWord_toNat w
  cases op with
  | cls =>
    rw [handler, EStateM.run_bind, run_clearScreen]
    exact run_advance_two _ l
  | ret => exact run_ret s l
  | jp =>
    rw [handler, nnn, run_setPc, ofInt_setWidth]
    rfl
  | call =>
    rw [handler, nnn]
    exact run_call s l (Word.nnn w)
  | seImm | sneImm =>
    rw [handler, x, nn, EStateM.run_bind, run_readV]
    simp only [bne, beq_toNat, run_skipIf]
    simp [Opcode.instr, State.exec, Effect.silent, ending, Except.map]
  | seReg | sneReg =>
    rw [handler, x, y, EStateM.run_bind, run_readV]
    simp only [EStateM.run_bind, run_readV, bne, beq_toNat, run_skipIf]
    simp [Opcode.instr, State.exec, Effect.silent, ending, Except.map]
  | ldImm =>
    rw [handler, x, nn, EStateM.run_bind, run_setV, Byte.ofInt_toNat]
    exact run_advance_two _ l
  | addImm =>
    rw [handler, x, nn, EStateM.run_bind, run_readV]
    simp only [EStateM.run_bind, run_setV, Byte.ofInt_add, Byte.ofInt_toNat, run_advance_two]
    rfl
  | ldReg | or | and | xor | addReg | sub | shr | subn | shl =>
    rw [handler, x, y, run_arithmetic]
    rfl
  | ldI =>
    rw [handler, nnn, EStateM.run_bind, run_setIndex, ofInt_setWidth]
    exact run_advance_two _ l
  | jpV0 =>
    have offset : (readV 0).run (s.bare l) = .ok ((s.v .first).toNat : Int) (s.bare l) :=
      run_readV s l .first
    rw [handler, nnn, EStateM.run_bind, offset]
    simp only [run_setPc, Word.ofInt_add, ofInt_setWidth]
    rfl
  | rnd =>
    rw [handler, x, nn, EStateM.run_bind, run_drawByte]
    simp only [EStateM.run_bind, land_toNat, run_setV, Byte.ofInt_toNat, run_advance_two]
    rfl
  | drw =>
    rw [handler, x, y, n_ofWord_toNat]
    exact run_draw s l (Word.x w) (Word.y w) (Word.n w)
  | skp | sknp =>
    rw [handler, x]
    exact run_skipKey s l _ (Word.x w)
  | ldVxDt =>
    rw [handler, x, EStateM.run_bind, Access.run_part]
    simp only [EStateM.run_bind, run_setV, run_advance_two]
    rfl
  | ldVxK =>
    rw [handler, x, run_awaitKey]
    rfl
  | ldDtVx =>
    rw [handler, x, EStateM.run_bind, run_readV]
    exact run_advance_two { s with timers := s.timers.setDelay (s.v (Word.x w)).toNat } l
  | ldStVx =>
    rw [handler, x, EStateM.run_bind, run_readV]
    exact run_advance_two { s with timers := s.timers.setSound (s.v (Word.x w)).toNat } l
  | addI =>
    rw [handler, x]
    exact run_addIndex s l (Word.x w)
  | ldF =>
    have address : (Font.stride * (s.v (Word.x w)).toNat : Int) =
        (Font.base + Font.stride * (s.v (Word.x w)).toNat : Nat) := by
      rw [Font.base, Nat.zero_add]
      rfl
    rw [handler, x, EStateM.run_bind, run_readV]
    simp only [EStateM.run_bind, address, run_setIndex, run_advance_two, Word.ofInt,
      BitVec.ofInt_natCast]
    rfl
  | ldB =>
    rw [handler, x, EStateM.run_bind, run_readV]
    exact run_digits s l (Word.x w)
  | ldMemVx =>
    rw [handler, x]
    exact run_store s l (Word.x w)
  | ldVxMem =>
    rw [handler, x]
    exact run_fetch s l (Word.x w)

end Handlers

end Chip8.Bare
