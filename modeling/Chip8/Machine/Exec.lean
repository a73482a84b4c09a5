import Chip8.Instr.Decode
import Chip8.Machine.State
import Chip8.Trace.Event
import Chip8.Trace.Log

/-!
# Executing an instruction

`State.exec` is the meaning of an instruction: the state after it, with what it reports, or the
fault that it ran into. A machine does not run this function but the actions of the instruction, one
by one; that both come to the same, and that a fault leaves nothing behind, is proved.

Operands are read before anything is written. Where an instruction writes both the flag register and
another register, the flag is written first, so with `VF` as the destination the result stays.
-/

namespace Chip8

/-- What an instruction leaves behind. -/
structure Effect where
  state : State
  /-- What it reports to observers. -/
  events : List Event
  /-- What it writes to the log. -/
  log : List LogEntry

/-- The effect of changing the state without a report. -/
def Effect.silent (s : State) : Effect := ⟨s, [], []⟩

/-- The result of an operation on two bytes, with the flag if it has one. -/
def Alu.apply : Alu → Byte → Byte → Byte × Option Bool
  | copy, _, b => (b, none)
  | or, a, b => (a ||| b, none)
  | and, a, b => (a &&& b, none)
  | xor, a, b => (a ^^^ b, none)
  | add, a, b => (a + b, some (decide (255 < a.toNat + b.toNat)))
  | sub, a, b => (a - b, some (decide (b < a)))
  | subn, a, b => (b - a, some (decide (a < b)))
  | shr, a, _ => (a >>> 1, some (a.getLsbD 0))
  | shl, a, _ => (a <<< 1, some (a.getMsbD 0))

/-- The three decimal digits of a byte, hundreds first. -/
def Byte.digits (b : Byte) : List Byte :=
  [BitVec.ofNat 8 (b.toNat / 100), BitVec.ofNat 8 (b.toNat / 10 % 10),
    BitVec.ofNat 8 (b.toNat % 10)]

namespace State

/-- Writes the flag, if there is one, and then the result, and goes on. -/
def finish (s : State) (x : RegIndex) (result : Byte) (flag : Option Bool) : State :=
  ((flag.elim s s.setFlag).setV x result).advance

/-- Draws the sprite at `I` with its corner at `Vx`, `Vy`. -/
def draw (s : State) (x y : RegIndex) (rows : Nat) : Except Fault Effect := do
  let sprite ← s.memory.readBytes s.index.toNat rows
  let left := (s.v x).toNat
  let top := (s.v y).toNat
  let (screen, erased) := s.screen.drawSprite Screen.width_pos Screen.height_pos left top sprite
  return ⟨({ s with screen }.setFlag erased).advance, [.draw s.pc.toNat left top rows erased], []⟩

/-- Puts a key into `Vx`, or starts to wait if no key is down. -/
def awaitKey (s : State) (x : RegIndex) : Effect :=
  match s.keypad.highest? with
  | some key => .silent (s.setV x (BitVec.ofNat 8 key)).advance
  | none =>
    ⟨{ s with mode := .waitingForKey, waitRegister := some x }, [.keyWait s.pc.toNat x.val],
      [.keyWait x.val s.pc.toNat]⟩

/-- What an instruction does. -/
def exec (s : State) : Instr → Except Fault Effect
  | .clear => .ok (.silent { s with screen := s.screen.clear }.advance)
  | .ret => do
    let (target, stack) ← s.stack.pop s.pc.toNat
    return ⟨{ s with stack }.setPc target, [.ret s.pc.toNat target.toNat stack.pointer], []⟩
  | .jump target => .ok (.silent (s.setPc (target.setWidth 16)))
  | .call target => do
    let stack ← s.stack.push (s.pc.toNat + 2) s.pc.toNat
    return ⟨{ s with stack }.setPc (target.setWidth 16),
      [.call s.pc.toNat target.toNat stack.pointer], []⟩
  | .skipByte equal x nn => .ok (.silent (s.advanceSkipping ((s.v x == nn) == equal)))
  | .skipReg equal x y => .ok (.silent (s.advanceSkipping ((s.v x == s.v y) == equal)))
  | .skipKey down x => do
    let isDown ← s.keypad.isDown (s.v x).toNat
    return .silent (s.advanceSkipping (isDown == down))
  | .loadByte x nn => .ok (.silent (s.setV x nn).advance)
  | .addByte x nn => .ok (.silent (s.setV x (s.v x + nn)).advance)
  | .alu op x y =>
    let (result, flag) := op.apply (s.v x) (s.v y)
    .ok (.silent (s.finish x result flag))
  | .loadIndex target => .ok (.silent (s.setIndex (target.setWidth 16)).advance)
  | .jumpOffset target => .ok (.silent (s.setPc (target.setWidth 16 + (s.v .first).setWidth 16)))
  | .random x nn =>
    let (b, random) := s.random.next
    .ok (.silent ({ s with random }.setV x (b &&& nn)).advance)
  | .draw x y rows => s.draw x y rows
  | .readDelay x => .ok (.silent (s.setV x (Byte.ofInt s.timers.delay)).advance)
  | .awaitKey x => .ok (s.awaitKey x)
  | .setDelay x => .ok (.silent { s with timers := s.timers.setDelay (s.v x).toNat }.advance)
  | .setSound x => .ok (.silent { s with timers := s.timers.setSound (s.v x).toNat }.advance)
  | .addIndex x =>
    let total := s.index.toNat + (s.v x).toNat
    .ok (.silent ((s.setFlag (decide (Memory.addressMask < total))).setIndex
      (BitVec.ofNat 16 total)).advance)
  | .glyph x =>
    .ok (.silent (s.setIndex (BitVec.ofNat 16 (Font.base + Font.stride * (s.v x).toNat))).advance)
  | .digits x => do
    let memory ← s.memory.writeBytes s.index.toNat (Byte.digits (s.v x))
    return .silent { s with memory }.advance
  | .store x => do
    let memory ← s.memory.writeBytes s.index.toNat (s.registers.v.toList.take (x.val + 1))
    return .silent { s with memory }.advance
  | .fetch x => do
    let bytes ← s.memory.readBytes s.index.toNat (x.val + 1)
    return .silent (s.putV 0 bytes).advance

/-- **The meaning of an instruction does not depend on an operand that it does not use.** -/
theorem exec_essential (s : State) (i : Instr) : s.exec i.essential = s.exec i := by
  cases i with
  | alu op x y => cases op <;> rfl
  | _ => rfl

/-- Counts one more completed instruction, unless the machine waits for a key. -/
def tally (s : State) : State :=
  match s.mode with
  | .running => { s with executed := s.executed + 1 }
  | .waitingForKey => s

end State

end Chip8
