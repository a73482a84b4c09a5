/-!
# The 512-bit digest

The secure hash SHA-512 of a list of bytes, which turns a text into a seed. Its constants are the
first 64 bits behind the point of the square roots of the first eight primes and of the cube roots
of the first eighty; they are computed here from that rule (`rootFraction`).
-/

namespace Chip8.Digest

/-- The greatest `r < bound + 2 ^ bits` with `r ^ k ≤ n` that agrees with `bound` above the last
`bits` bits. -/
def rootFrom (k n : Nat) : Nat → Nat → Nat
  | 0, bound => bound
  | bits + 1, bound =>
    rootFrom k n bits (if Nat.pow (bound + 1 <<< bits) k ≤ n then bound + 1 <<< bits else bound)

/-- The first 64 bits behind the point of the `k`-th root of `n`. -/
def rootFraction (k n : Nat) : UInt64 := (rootFrom k (n <<< (64 * k)) 72 0).toUInt64

/-- Whether no number from two up to the square root of `n` divides it. -/
def isPrime (n : Nat) : Bool :=
  2 ≤ n && (List.range n).all fun d ↦ d < 2 || n % d != 0

/-- The first eighty primes. -/
def primes : List Nat := (List.range 410).filter isPrime

/-- The constants of the eighty rounds. -/
def roundConstants : Array UInt64 := (primes.map (rootFraction 3)).toArray

/-- The eight words that the digest starts from. -/
def initial : Array UInt64 := ((primes.take 8).map (rootFraction 2)).toArray

/-- A word turned right by `k` bits. -/
def rotate (w : UInt64) (k : UInt64) : UInt64 := (w >>> k) ||| (w <<< (64 - k))

/-- The `width` bytes of a number, most significant first. -/
def bytesOf (width n : Nat) : List UInt8 :=
  (List.range width).reverse.map fun i ↦ (n >>> (8 * i)).toUInt8

/-- The number of a list of bytes, most significant first. -/
def numberOf (bytes : List UInt8) : Nat := bytes.foldl (fun acc b ↦ acc * 256 + b.toNat) 0

/-- A message filled up to whole blocks of 128 bytes: one bit, zeros, and its length in bits. -/
def pad (message : List UInt8) : List UInt8 :=
  let zeros := (111 + 128 - message.length % 128) % 128
  message ++ (0x80 :: List.replicate zeros 0) ++ bytesOf 16 (8 * message.length)

/-- The sixteen words of a block, extended to one for each round. -/
def schedule (block : List UInt8) : Array UInt64 :=
  let words := (List.range 16).map fun i ↦ (numberOf ((block.drop (8 * i)).take 8)).toUInt64
  (List.range 64).foldl
    (fun w t ↦
      let a := w.getD (t + 1) 0
      let b := w.getD (t + 14) 0
      let s₀ := rotate a 1 ^^^ rotate a 8 ^^^ (a >>> 7)
      let s₁ := rotate b 19 ^^^ rotate b 61 ^^^ (b >>> 6)
      w.push (w.getD t 0 + s₀ + w.getD (t + 9) 0 + s₁))
    words.toArray

/-- One round on the eight working words. -/
def round (v : Array UInt64) (k w : UInt64) : Array UInt64 :=
  let a := v.getD 0 0
  let b := v.getD 1 0
  let c := v.getD 2 0
  let e := v.getD 4 0
  let s₁ := rotate e 14 ^^^ rotate e 18 ^^^ rotate e 41
  let choice := (e &&& v.getD 5 0) ^^^ ((~~~e) &&& v.getD 6 0)
  let t₁ := v.getD 7 0 + s₁ + choice + k + w
  let s₀ := rotate a 28 ^^^ rotate a 34 ^^^ rotate a 39
  let majority := (a &&& b) ^^^ (a &&& c) ^^^ (b &&& c)
  #[t₁ + s₀ + majority, a, b, c, v.getD 3 0 + t₁, e, v.getD 5 0, v.getD 6 0]

/-- The eight words after a block. -/
def compress (h : Array UInt64) (block : List UInt8) : Array UInt64 :=
  let w := schedule block
  let v := (List.range 80).foldl (fun v t ↦ round v (roundConstants.getD t 0) (w.getD t 0)) h
  Array.zipWith (· + ·) h v

/-- The digest of a message: 64 bytes. -/
def sha512 (message : List UInt8) : List UInt8 :=
  let padded := pad message
  let words := (List.range (padded.length / 128)).foldl
    (fun h i ↦ compress h ((padded.drop (128 * i)).take 128)) initial
  words.toList.flatMap fun w ↦ bytesOf 8 w.toNat

end Chip8.Digest
