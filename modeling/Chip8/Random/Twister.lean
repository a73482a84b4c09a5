/-!
# A twisted shift register

The generator MT19937: 624 words of 32 bits, of which one is replaced and put out, tempered, at each
draw. The state is started from a list of words (`Twister.ofKey`), which is how a seed of any size
enters.

A byte is the top nine bits of an output, drawn again while they are above 255, so that every byte
is equally likely. The number of such draws is bounded by the number of bits of the state
(`Twister.maxDraws`).
-/

namespace Chip8

/-- The state of the generator: its words and the position of the next one to be replaced. -/
structure Twister where
  words : Vector UInt32 624
  position : Nat
  deriving DecidableEq

namespace Twister

/-- The number of words of the state. -/
def size : Nat := 624

/-- The word at a position, counted round. -/
def word (words : Vector UInt32 624) (i : Nat) : UInt32 :=
  words.get ⟨i % 624, Nat.mod_lt _ (by decide)⟩

/-- The words with the one at a position replaced. -/
def setWord (words : Vector UInt32 624) (i : Nat) (w : UInt32) : Vector UInt32 624 :=
  words.set (i % 624) w (Nat.mod_lt _ (by decide))

/-- A word mixed with its own top bits, as the start of the state uses it. -/
def mix (w : UInt32) : UInt32 := w ^^^ (w >>> 30)

/-- The state that is started from a single word. -/
def ofWord (w : UInt32) : Vector UInt32 624 :=
  (List.range 623).foldl
    (fun words i ↦ setWord words (i + 1) (1812433253 * mix (word words i) + (i + 1).toUInt32))
    (Vector.replicate 624 w)

/-- A position of the second and third pass: position zero is left out, and takes over the last word
whenever the pass comes round. -/
structure Pass where
  words : Vector UInt32 624
  position : Nat

/-- Replaces the word at the position of a pass and moves on. -/
def Pass.next (p : Pass) (f : UInt32 → UInt32 → UInt32) : Pass :=
  let w := f (word p.words p.position) (mix (word p.words (p.position - 1)))
  let words := setWord p.words p.position w
  if p.position + 1 < 624 then ⟨words, p.position + 1⟩ else ⟨setWord words 0 w, 1⟩

/-- The state that is started from a list of words. -/
def ofKey (key : List UInt32) : Twister :=
  let keyed := (List.range (max 624 key.length)).foldl
    (fun p k ↦
      let j := k % key.length
      p.next fun w before ↦ (w ^^^ (before * 1664525)) + key.getD j 0 + j.toUInt32)
    (⟨ofWord 19650218, 1⟩ : Pass)
  let spread := (List.range 623).foldl
    (fun p _ ↦ p.next fun w before ↦ (w ^^^ (before * 1566083941)) - p.position.toUInt32) keyed
  ⟨setWord spread.words 0 0x80000000, 0⟩

/-- The words of a number, least significant first; zero is the one word zero. -/
def wordsOf (n : Nat) : List UInt32 :=
  if n < 0x100000000 then [n.toUInt32]
  else (n % 0x100000000).toUInt32 :: wordsOf (n / 0x100000000)
termination_by n
decreasing_by
  exact Nat.div_lt_self (by omega) (by decide)

/-- The state that is started from a number. -/
def ofSeed (n : Nat) : Twister := ofKey (wordsOf n)

/-- The output of a word of the state. -/
def temper (w : UInt32) : UInt32 :=
  let w := w ^^^ (w >>> 11)
  let w := w ^^^ ((w <<< 7) &&& 0x9D2C5680)
  let w := w ^^^ ((w <<< 15) &&& 0xEFC60000)
  w ^^^ (w >>> 18)

/-- The next output and the state after it. -/
def next (t : Twister) : UInt32 × Twister :=
  let i := t.position
  let joined := (word t.words i &&& 0x80000000) ||| (word t.words (i + 1) &&& 0x7FFFFFFF)
  let twist := if joined &&& 1 = 1 then (0x9908B0DF : UInt32) else 0
  let w := word t.words (i + 397) ^^^ (joined >>> 1) ^^^ twist
  (temper w, ⟨setWord t.words i w, (i + 1) % 624⟩)

/-- More draws than the state has bits, so more than a byte ever takes. -/
def maxDraws : Nat := 20000

/-- The next byte, in at most `fuel` draws. -/
def byteWithin : Nat → Twister → BitVec 8 × Twister
  | 0, t => (0, t)
  | fuel + 1, t =>
    let (w, t) := t.next
    let top := (w >>> 23).toNat
    if top < 256 then (BitVec.ofNat 8 top, t) else byteWithin fuel t

/-- The next byte and the state after it. -/
def nextByte (t : Twister) : BitVec 8 × Twister := byteWithin maxDraws t

end Twister

end Chip8
