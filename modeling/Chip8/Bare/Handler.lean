import Chip8.Bare.State
import Chip8.Instr.Encoding

/-!
# Instructions on plain numbers

What each opcode does to a machine of plain numbers, in the order in which it reads and writes. The
operands are numbers cut out of the word (`Fields`). The operations on two registers read both of
them and write the list of registers without the mask of `setV`, with a mask of their own; fetching
writes there without any mask, so its registers are in range because the cells are.
-/

namespace Chip8.Bare

/-- The operands in a word. -/
structure Fields where
  x : Int
  y : Int
  n : Int
  nn : Int
  nnn : Int

/-- The operands of a word. -/
def Fields.ofWord (word : Int) : Fields where
  x := word / 0x100 % 0x10
  y := word / 0x10 % 0x10
  n := word % 0x10
  nn := word % 0x100
  nnn := word % 0x1000

/-- A flag as a number. -/
def flagOf (b : Bool) : Int := if b then 1 else 0

/-- The result of an operation on two numbers, which need not be a byte, and the flag if it has
one. -/
def operate : Alu → Int → Int → Int × Option Int
  | .copy, _, b => (b, none)
  | .or, a, b => (Int.lor a b, none)
  | .and, a, b => (Int.land a b, none)
  | .xor, a, b => (Int.xor a b, none)
  | .add, a, b => (a + b, some (flagOf (decide (255 < a + b))))
  | .sub, a, b => (a - b, some (flagOf (decide (b < a))))
  | .subn, a, b => (b - a, some (flagOf (decide (a < b))))
  | .shr, a, _ => (a >>> (1 : Nat), some (a % 2))
  | .shl, a, _ => (a <<< (1 : Nat), some (a >>> (7 : Nat) % 2))

/-- Moves past one instruction, and past one more if `skip`. -/
def skipIf (skip : Bool) : Action Unit := advance (if skip then 4 else 2)

/-- An operation on two registers. Both are read before the flag is written, and the flag before the
result. -/
def arithmetic (op : Alu) (x y : Int) : Action Unit := do
  let a ← readV x
  let b ← readV y
  let (result, flag) := operate op a b
  if let some flag := flag then writeV 15 flag
  writeV x (result % 256)
  advance 2

/-- Goes back to the latest return address. -/
def ret : Action Unit := do
  let target ← pop (← Access.part).pc
  setPc target

/-- Goes to `target` and remembers the way back. -/
def call (target : Int) : Action Unit := do
  let pc := (← Access.part).pc
  push (pc + 2) pc
  setPc target

/-- Skips the next instruction if a key is down (`down`) or up (not `down`). -/
def skipKey (down : Bool) (x : Int) : Action Unit := do
  let isDown ← isDown (← readV x)
  if isDown == down then advance 2
  advance 2

/-- Toggles the pixels under the set bits of a sprite row, offset by offset, and answers whether a
pixel went dark or `erased` was true already. -/
def flipRow (left top : Int) (row : Int) : List Nat → Bool → Action Bool
  | [], erased => return erased
  | c :: cs, erased => do
    if row.testBit (7 - c) then
      let lit ← flip ((left + c) % Screen.standardWidth) (top % Screen.standardHeight)
      flipRow left top row cs (erased || !lit)
    else flipRow left top row cs erased

/-- Toggles the pixels of a sprite row by row. -/
def flipRows (left top : Int) : List Int → Bool → Action Bool
  | [], erased => return erased
  | row :: rows, erased => do
    let erased ← flipRow left top row (List.range Screen.spriteWidth) erased
    flipRows left (top + 1) rows erased

/-- Draws the sprite at the index register. -/
def draw (x y n : Int) : Action Unit := do
  let left ← readV x
  let top ← readV y
  let sprite ← readBytes (← Access.part).index n
  setFlag 0
  let erased ← flipRows left top sprite false
  if erased then setFlag 1
  setDirty true
  advance 2

/-- Puts the key that is down into a register, or starts to wait if there is none. -/
def awaitKey (x : Int) : Action Unit := do
  match ← highest? with
  | none =>
    Access.change ({ · with mode := .waitingForKey })
    Access.change ({ · with waitRegister := some x })
  | some key =>
    setV x key
    advance 2

/-- Ends the wait, if there is a key and a register that it goes to, and answers whether it did. -/
def pollKey : Action Bool := do
  let register := (← Access.part).waitRegister
  match ← highest?, register with
  | some key, some x =>
    setV x key
    Access.change ({ · with mode := .running })
    Access.change ({ · with waitRegister := none })
    advance 2
    return true
  | _, _ => return false

/-- Adds a register to the index register; the flag tells whether the sum is beyond memory. -/
def addIndex (x : Int) : Action Unit := do
  let total := (← Access.part).index + (← readV x)
  setFlag (flagOf (decide (Memory.addressMask < total)))
  setIndex total
  advance 2

/-- Puts some numbers into the registers from `Vi` on, as they are. -/
def fill (i : Int) : List Int → Action Unit
  | [] => return ()
  | value :: values => do
    writeV i value
    fill (i + 1) values

/-- What an opcode does with its operands. -/
def handler (f : Fields) : Opcode → Action Unit
  | .cls => do
    clearScreen
    advance 2
  | .ret => ret
  | .jp => setPc f.nnn
  | .call => call f.nnn
  | .seImm => do skipIf ((← readV f.x) == f.nn)
  | .sneImm => do skipIf ((← readV f.x) != f.nn)
  | .seReg => do skipIf ((← readV f.x) == (← readV f.y))
  | .sneReg => do skipIf ((← readV f.x) != (← readV f.y))
  | .ldImm => do
    setV f.x f.nn
    advance 2
  | .addImm => do
    setV f.x ((← readV f.x) + f.nn)
    advance 2
  | .ldReg => arithmetic .copy f.x f.y
  | .or => arithmetic .or f.x f.y
  | .and => arithmetic .and f.x f.y
  | .xor => arithmetic .xor f.x f.y
  | .addReg => arithmetic .add f.x f.y
  | .sub => arithmetic .sub f.x f.y
  | .shr => arithmetic .shr f.x f.y
  | .subn => arithmetic .subn f.x f.y
  | .shl => arithmetic .shl f.x f.y
  | .ldI => do
    setIndex f.nnn
    advance 2
  | .jpV0 => do setPc (f.nnn + (← readV 0))
  | .rnd => do
    setV f.x (Int.land (← drawByte) f.nn)
    advance 2
  | .drw => draw f.x f.y f.n
  | .skp => skipKey true f.x
  | .sknp => skipKey false f.x
  | .ldVxDt => do
    setV f.x (← Access.part).timers.delay
    advance 2
  | .ldVxK => awaitKey f.x
  | .ldDtVx => do
    let value ← readV f.x
    Access.change fun s ↦ { s with timers := s.timers.setDelay value }
    advance 2
  | .ldStVx => do
    let value ← readV f.x
    Access.change fun s ↦ { s with timers := s.timers.setSound value }
    advance 2
  | .addI => addIndex f.x
  | .ldF => do
    setIndex (Font.stride * (← readV f.x))
    advance 2
  | .ldB => do
    let value ← readV f.x
    writeBytes (← Access.part).index [value / 100, value / 10 % 10, value % 10]
    advance 2
  | .ldMemVx => do
    let s ← Access.part
    writeBytes s.index (Sequence.slice s.registers 0 (f.x + 1))
    advance 2
  | .ldVxMem => do
    fill 0 (← readBytes (← Access.part).index (f.x + 1))
    advance 2

end Chip8.Bare
