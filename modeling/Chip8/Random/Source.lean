import Chip8.Random.Twister
import Chip8.Word

/-!
# Sources of random bytes

A source is a value: drawing a byte answers the source after the draw. `Cycle` replays a list of
bytes over and over and counts the draws; `Twister` is the seeded generator.
-/

namespace Chip8

/-- A list of bytes replayed over and over: one byte first and then `rest`. -/
structure Cycle where
  first : Byte
  rest : List Byte
  /-- The bytes that are left of the current round. -/
  pending : List Byte
  /-- How many bytes were drawn. -/
  draws : Nat
  deriving DecidableEq

namespace Cycle

/-- There is nothing to replay. -/
inductive Error
  | empty
  deriving DecidableEq, Repr

/-- The text of the refusal. -/
def Error.message : Error → String
  | empty => "SequenceRandomSource requires at least one value"

/-- The bytes of one round. -/
def values (c : Cycle) : List Byte := c.first :: c.rest

/-- A cycle over the bytes congruent to the values, at its start. -/
def ofValues (values : List Int) : Except Error Cycle :=
  match values.map Byte.ofInt with
  | [] => .error .empty
  | b :: bs => .ok ⟨b, bs, b :: bs, 0⟩

/-- The next byte, from a new round if the current one is over. -/
def next (c : Cycle) : Byte × Cycle :=
  match c.pending with
  | b :: bs => (b, { c with pending := bs, draws := c.draws + 1 })
  | [] => (c.first, { c with pending := c.rest, draws := c.draws + 1 })

end Cycle

/-- Where a machine takes its random bytes from. -/
inductive RandomSource
  | cycle (c : Cycle)
  | twister (t : Twister)
  deriving DecidableEq

namespace RandomSource

/-- The next byte and the source after it. -/
def next : RandomSource → Byte × RandomSource
  | cycle c => (c.next.1, cycle c.next.2)
  | twister t => (t.nextByte.1, twister t.nextByte.2)

/-- The next `n` bytes and the source after them. -/
def take : Nat → RandomSource → List Byte × RandomSource
  | 0, s => ([], s)
  | n + 1, s =>
    let (b, s) := s.next
    let (bs, s) := take n s
    (b :: bs, s)

/-- How many bytes were drawn, for a source that counts them. -/
def draws? : RandomSource → Option Nat
  | cycle c => some c.draws
  | twister _ => none

/-- The source of a machine without a seed. -/
def unseeded : RandomSource := twister (Twister.ofSeed 0)

end RandomSource

end Chip8
