import Chip8.Host.Store

/-!
# Clocks

The clock that a host hands to a machine: one that is moved by hand, or the real one. A clock that
is moved by hand starts at any value and is moved by any value that can be put to what it shows: a
number is added to a number, and a text is written behind a text. What it shows becomes whole
milliseconds only when a machine looks at it (`Clock.now`), so a clock may be moved to where it has
no reading, and on from there.
-/

namespace Chip8.Host

/-- A clock that is moved by hand and what it shows, or the real one, whose readings are never
shown. -/
inductive Clock
  | manual (shown : Json)
  | real

namespace Clock

/-- The reading of a clock. The real one may read anything, since no answer depends on it. -/
def now : Clock → Except Error Int
  | manual shown => whole shown
  | real => .ok 0

/-- A clock moved by a span. The real one moves by itself alone. -/
def move (c : Clock) (span : Json) : Except Error Clock :=
  match c, span with
  | manual (.string shown), .string more => .ok (manual (.string (shown ++ more)))
  | manual shown, span => do return manual (.number (← sum (← number shown) (← number span)))
  | real, _ => .error .wrongKind

/-- Whether a clock is moved by hand. -/
def isManual : Clock → Bool
  | manual _ => true
  | real => false

/-- A clock that was moved by some milliseconds reads that much more. -/
theorem now_move_int (shown span : Int) :
    (move (manual (.int shown)) (.int span)).bind now = .ok (shown + span) := rfl

end Clock

end Chip8.Host
