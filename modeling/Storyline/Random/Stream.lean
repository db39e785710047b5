/-!
A stream of pseudo-random words from a 64-bit seed. The seed is stretched to a key of eight words,
and the stream is the ChaCha key stream of that key with twelve rounds, block after block.
-/
namespace Storyline.Random

abbrev Block := Vector UInt32 16

def rotateLeft (x : UInt32) (n : UInt32) : UInt32 := (x <<< n) ||| (x >>> (32 - n))

def quarterRound (s : Block) (a b c d : Fin 16) : Block :=
  let s := s.set a (s[a] + s[b])
  let s := s.set d (rotateLeft (s[d] ^^^ s[a]) 16)
  let s := s.set c (s[c] + s[d])
  let s := s.set b (rotateLeft (s[b] ^^^ s[c]) 12)
  let s := s.set a (s[a] + s[b])
  let s := s.set d (rotateLeft (s[d] ^^^ s[a]) 8)
  let s := s.set c (s[c] + s[d])
  s.set b (rotateLeft (s[b] ^^^ s[c]) 7)

def doubleRound (s : Block) : Block :=
  let s := quarterRound s 0 4 8 12
  let s := quarterRound s 1 5 9 13
  let s := quarterRound s 2 6 10 14
  let s := quarterRound s 3 7 11 15
  let s := quarterRound s 0 5 10 15
  let s := quarterRound s 1 6 11 12
  let s := quarterRound s 2 7 8 13
  quarterRound s 3 4 9 14

def applyRounds : Nat → Block → Block
  | 0, s => s
  | n + 1, s => applyRounds n (doubleRound s)

abbrev Key := Vector UInt32 8

/-- The block before its rounds: constants, the key, the block's number, and no stream number. -/
def startBlock (k : Key) (number : UInt64) : Block :=
  #v[0x61707865, 0x3320646e, 0x79622d32, 0x6b206574,
    k[0], k[1], k[2], k[3], k[4], k[5], k[6], k[7],
    number.toUInt32, (number >>> 32).toUInt32, 0, 0]

def keyBlock (k : Key) (number : UInt64) : Block :=
  let start := startBlock k number
  Vector.zipWith (· + ·) (applyRounds 6 start) start

def stretchStep (state : UInt64) : UInt64 := state * 6364136223846793005 + 11634580027462260723

def stretchWord (state : UInt64) : UInt32 :=
  let word := (((state >>> 18) ^^^ state) >>> 27).toUInt32
  let turn := (state >>> 59).toUInt32
  rotateLeft word ((32 - turn) % 32)

def stretchStates (seed : UInt64) (n : Nat) : UInt64 :=
  match n with
  | 0 => stretchStep seed
  | n + 1 => stretchStep (stretchStates seed n)

def keyOfSeed (seed : UInt64) : Key := Vector.ofFn fun i => stretchWord (stretchStates seed i)

/-- A key, the number of the next block, and the words of the last that are not used yet. -/
structure Stream where
  key : Key
  block : UInt64
  ready : List UInt32

namespace Stream

def ofSeed (seed : UInt64) : Stream := ⟨keyOfSeed seed, 0, []⟩

def next (s : Stream) : UInt32 × Stream :=
  match s.ready with
  | w :: rest => (w, { s with ready := rest })
  | [] =>
    match (keyBlock s.key s.block).toList with
    | w :: rest => (w, { s with block := s.block + 1, ready := rest })
    | [] => (0, s)

end Stream

end Storyline.Random
