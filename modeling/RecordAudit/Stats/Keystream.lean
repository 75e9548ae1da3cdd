/-!
# A stream of random numbers

The ChaCha stream with twelve rounds.  A seed of 64 bits is spread over the key; the
stream is cut into numbers of 64 bits, from which whole numbers below a bound and
fractions are drawn.
-/

namespace RecordAudit

/-- A source from which numbers are drawn. -/
class Draws (γ : Type) where
  /-- Draws a whole number below a bound. -/
  below : Nat → γ → Nat × γ
  /-- Draws a fraction that is less than one. -/
  fraction : γ → Float × γ

/-- The key of a stream, the number of the next block, and the words that are left of the last. -/
structure Keystream where
  key : List UInt32
  block : Nat
  pending : List UInt32

namespace Keystream

/-- Sixteen words. -/
abbrev Block := Vector UInt32 16

/-- Rotates a word to the left. -/
def rotate (x : UInt32) (count : UInt32) : UInt32 := (x <<< count) ||| (x >>> (32 - count))

/-- Mixes four words of a block. -/
def quarterRound (b : Block) (i j k l : Fin 16) : Block :=
  let b := b.set i (b[i] + b[j])
  let b := b.set l (rotate (b[l] ^^^ b[i]) 16)
  let b := b.set k (b[k] + b[l])
  let b := b.set j (rotate (b[j] ^^^ b[k]) 12)
  let b := b.set i (b[i] + b[j])
  let b := b.set l (rotate (b[l] ^^^ b[i]) 8)
  let b := b.set k (b[k] + b[l])
  b.set j (rotate (b[j] ^^^ b[k]) 7)

/-- Two rounds: one over the columns and one over the diagonals. -/
def doubleRound (b : Block) : Block :=
  let b := quarterRound b 0 4 8 12
  let b := quarterRound b 1 5 9 13
  let b := quarterRound b 2 6 10 14
  let b := quarterRound b 3 7 11 15
  let b := quarterRound b 0 5 10 15
  let b := quarterRound b 1 6 11 12
  let b := quarterRound b 2 7 8 13
  quarterRound b 3 4 9 14

/-- The words with which a block begins: four constants, the key, the number and a nonce of zero. -/
def initial (key : List UInt32) (block : Nat) : Block :=
  let words := [0x61707865, 0x3320646e, 0x79622d32, 0x6b206574] ++ key ++
    [UInt32.ofNat block, UInt32.ofNat (block / UInt32.size), 0, 0]
  Vector.ofFn fun i => words.getD i.val 0

/-- The words of a block of the stream. -/
def blockWords (key : List UInt32) (block : Nat) : List UInt32 :=
  let start := initial key block
  let mixed := (List.range 6).foldl (fun b _ => doubleRound b) start
  (Vector.zipWith (· + ·) start mixed).toList

/-- The next word. -/
def word (s : Keystream) : UInt32 × Keystream :=
  match s.pending with
  | w :: rest => (w, { s with pending := rest })
  | [] =>
    let words := blockWords s.key s.block
    (words.headD 0, ⟨s.key, s.block + 1, words.tail⟩)

/-- The next number of 64 bits, its lower half first. -/
def next (s : Keystream) : Nat × Keystream :=
  let (low, s) := s.word
  let (high, s) := s.word
  (low.toNat + UInt32.size * high.toNat, s)

/-- One step of the generator that spreads a seed: a word of the key, and the new state. -/
def seedStep (state : UInt64) : UInt32 × UInt64 :=
  let state := state * 6364136223846793005 + 11634580027462260723
  let x := (((state >>> 18) ^^^ state) >>> 27).toUInt32
  let count := (state >>> 59).toUInt32
  ((x >>> count) ||| (x <<< ((32 - count) % 32)), state)

/-- So many words of the key of a seed. -/
def seedWords : Nat → UInt64 → List UInt32
  | 0, _ => []
  | count + 1, state =>
    let (w, state) := seedStep state
    w :: seedWords count state

/-- The stream of a seed. -/
def ofSeed (seed : UInt64) : Keystream := ⟨seedWords 8 seed, 0, []⟩

/-- A number below a bound: the upper half of a product.  Where the lower half is so great that the
upper half could come out too small, a second number decides about a carry. -/
def below (n : Nat) (s : Keystream) : Nat × Keystream :=
  let (r, s) := s.next
  let high := r * n / UInt64.size
  let low := r * n % UInt64.size
  if UInt64.size - n < low then
    let (r, s) := s.next
    (if UInt64.size ≤ low + r * n / UInt64.size then high + 1 else high, s)
  else (high, s)

/-- A fraction of 53 bits. -/
def fraction (s : Keystream) : Float × Keystream :=
  let (r, s) := s.next
  (Float.ofNat (r / 2048) / Float.ofNat 9007199254740992, s)

instance : Draws Keystream := ⟨below, fraction⟩

end Keystream

end RecordAudit
