import Chip8.Machine.Action

/-!
# Microcode

Each instruction as a sequence of actions, in the order in which they take effect. This is what a
machine runs; `State.exec` says in one go what comes out of it.

Operands are read before anything is written, and the flag before the result. Drawing reads its
sprite, which can be refused, and only then lowers the flag, toggles pixels and raises it again.
-/

namespace Chip8

namespace Action

/-- Writes the flag, if there is one, and then the result, and goes on. -/
def finish (x : RegIndex) (result : Byte) (flag : Option Bool) : Action Unit := do
  if let some flag := flag then change (·.setFlag flag)
  change (·.setV x result)
  advance

/-- Goes back to the latest return address. -/
def ret : Action Unit := do
  let pc : Int := (← state).pc.toNat
  let target ← pop pc
  change (·.setPc target)
  report (.ret pc target.toNat (← state).stack.pointer)

/-- Goes to `target` and remembers the way back. -/
def call (target : Target) : Action Unit := do
  let pc : Int := (← state).pc.toNat
  push (pc + 2) pc
  change (·.setPc (target.setWidth 16))
  report (.call pc target.toNat (← state).stack.pointer)

/-- Skips the next instruction if the key that `Vx` names is down (`down`) or up (not `down`). -/
def skipKey (down : Bool) (x : RegIndex) : Action Unit := do
  let s ← state
  let isDown ← Access.check (s.keypad.isDown (s.v x).toNat)
  if isDown == down then advance
  advance

/-- Draws the sprite at `I` with its corner at `Vx`, `Vy`. -/
def draw (x y : RegIndex) (rows : Nat) : Action Unit := do
  let s ← state
  let left := (s.v x).toNat
  let top := (s.v y).toNat
  let sprite ← readBytes s.index.toNat rows
  change (·.setFlag false)
  let erased ← flipRows left top sprite false
  if erased then change (·.setFlag true)
  change fun s ↦ { s with screen := s.screen.markDirty }
  report (.draw (← state).pc.toNat left top rows erased)
  advance

/-- Puts a key into `Vx` and goes on or, if there is none, starts to wait for one. -/
def takeKey (x : RegIndex) : Option (Fin 16) → Action Unit
  | some key => do
    change (·.setV x (BitVec.ofNat 8 key))
    advance
  | none => do
    change ({ · with mode := .waitingForKey })
    change ({ · with waitRegister := some x })
    let s ← state
    note (.keyWait x.val s.pc.toNat)
    report (.keyWait s.pc.toNat x.val)

/-- Puts the key that is down into `Vx`, or starts to wait if there is none. -/
def awaitKey (x : RegIndex) : Action Unit := do takeKey x (← state).keypad.highest?

/-- Ends the wait, if there is a key and a register that it goes to, and answers whether it did. -/
def endWait : Option (Fin 16) → Option RegIndex → Action Bool
  | some key, some x => do
    change (·.setV x (BitVec.ofNat 8 key))
    change ({ · with mode := .running })
    change ({ · with waitRegister := none })
    note (.keyResumed key.val x.val)
    let s ← state
    report (.keyResume s.pc.toNat x.val key.val)
    advance
    return true
  | _, _ => return false

/-- Looks for the key that is waited for. -/
def pollKey : Action Bool := do
  let s ← state
  endWait s.keypad.highest? s.waitRegister

/-- Looks for the key that is waited for, and counts an instruction if the wait has ended. -/
def retryKey : Action Unit := do
  if ← pollKey then change fun s ↦ { s with executed := s.executed + 1 }

/-- Adds `Vx` to the index register; the flag tells whether the sum has more than twelve bits. -/
def addIndex (x : RegIndex) : Action Unit := do
  let s ← state
  let total := s.index.toNat + (s.v x).toNat
  change (·.setFlag (decide (Memory.addressMask < total)))
  change (·.setIndex (BitVec.ofNat 16 total))
  advance

end Action

open Chip8.Action in
/-- The actions of an instruction. -/
def Instr.microcode : Instr → Action Unit
  | clear => do
    change fun s ↦ { s with screen := s.screen.clear }
    advance
  | ret => Action.ret
  | jump target => change (·.setPc (target.setWidth 16))
  | call target => Action.call target
  | skipByte equal x nn => change fun s ↦ s.advanceSkipping ((s.v x == nn) == equal)
  | skipReg equal x y => change fun s ↦ s.advanceSkipping ((s.v x == s.v y) == equal)
  | skipKey down x => Action.skipKey down x
  | loadByte x nn => do
    change (·.setV x nn)
    advance
  | addByte x nn => do
    change fun s ↦ s.setV x (s.v x + nn)
    advance
  | alu op x y => do
    let s ← state
    let (result, flag) := op.apply (s.v x) (s.v y)
    finish x result flag
  | loadIndex target => do
    change (·.setIndex (target.setWidth 16))
    advance
  | jumpOffset target => change fun s ↦ s.setPc (target.setWidth 16 + (s.v .first).setWidth 16)
  | random x nn => do
    let b ← drawByte
    change (·.setV x (b &&& nn))
    advance
  | draw x y rows => Action.draw x y rows
  | readDelay x => do
    change fun s ↦ s.setV x (Byte.ofInt s.timers.delay)
    advance
  | awaitKey x => Action.awaitKey x
  | setDelay x => do
    change fun s ↦ { s with timers := s.timers.setDelay (s.v x).toNat }
    advance
  | setSound x => do
    change fun s ↦ { s with timers := s.timers.setSound (s.v x).toNat }
    advance
  | addIndex x => Action.addIndex x
  | glyph x => do
    change fun s ↦ s.setIndex (BitVec.ofNat 16 (Font.base + Font.stride * (s.v x).toNat))
    advance
  | digits x => do
    let s ← state
    writeBytes s.index.toNat (Byte.digits (s.v x))
    advance
  | store x => do
    let s ← state
    writeBytes s.index.toNat (s.registers.v.toList.take (x.val + 1))
    advance
  | fetch x => do
    let bytes ← readBytes (← state).index.toNat (x.val + 1)
    putV 0 bytes
    advance

end Chip8
