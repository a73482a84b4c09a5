import Chip8.Fault

/-!
# The log

The lines that a machine writes to a log. An entry is what happened; its wording, its level and the
part of the program that it comes from are functions of it.
-/

namespace Chip8

/-- An entry of the log. -/
inductive LogEntry
  /-- The machine was reset. -/
  | reset (pc : Int)
  /-- A program of `count` bytes was written to memory from `origin` on. -/
  | loaded (count : Nat) (origin : Int)
  /-- An instruction is about to be executed. -/
  | instruction (pc word : Int) (text : String)
  /-- The machine started to wait for a key. -/
  | keyWait (register pc : Int)
  /-- A key ended the wait. -/
  | keyResumed (key register : Int)
  /-- A step was refused. -/
  | stepAborted (pc : Int) (cause : Fault)
  deriving DecidableEq, Repr

namespace LogEntry

open Text

/-- The level of an entry: only a refused step is more than a detail. -/
inductive Level
  | debug | warning
  deriving DecidableEq, Repr

/-- The part of the program that an entry comes from. -/
inductive Channel
  | machine | memory
  deriving DecidableEq, Repr

/-- How much an entry matters. -/
def level : LogEntry → Level
  | stepAborted .. => .warning
  | _ => .debug

/-- Where an entry comes from. -/
def channel : LogEntry → Channel
  | loaded .. => .memory
  | _ => .machine

/-- The text of an entry. The last address of an empty program is given as its first. -/
def message : LogEntry → String
  | reset pc => "Interpreter reset, PC=0x" ++ hex 3 pc
  | loaded count origin =>
    "Loaded " ++ decimal count ++ " program bytes at 0x" ++ hex 3 origin ++
      "-0x" ++ hex 3 (origin + (max count 1 : Nat) - 1)
  | instruction pc word text => hex 3 pc ++ ": " ++ hex 4 word ++ "  " ++ text
  | keyWait register pc => "Waiting for key into V" ++ hex 0 register ++ " at PC=0x" ++ hex 3 pc
  | keyResumed key register =>
    "Key " ++ hex 0 key ++ " pressed, resuming with V" ++ hex 0 register
  | stepAborted pc cause => "Step aborted at PC=0x" ++ hex 3 pc ++ ": " ++ cause.message

end LogEntry

end Chip8
