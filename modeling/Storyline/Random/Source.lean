import Storyline.Number.Binary64
import Storyline.Random.Stream

/-! Draws from a source of random words: a seeded stream, or a given list over and over. -/
namespace Storyline.Random

inductive Source where
  | stream (s : Stream)
  | cycle (words : List UInt64) (position : Nat)

namespace Source

def ofSeed (seed : Nat) : Source := stream (.ofSeed (UInt64.ofNat seed))

def ofWords (words : List Nat) : Source := cycle (words.map UInt64.ofNat) 0

/-- The word at a position of a list that starts anew at its end. -/
def wordAt (words : List UInt64) (position : Nat) : UInt64 :=
  words.getD (position % words.length) 0

/-- A word of 32 bits: the next of a stream, or the lower half of the next of a list. -/
def draw32 : Source → UInt32 × Source
  | stream s =>
    let (w, s) := s.next
    (w, stream s)
  | cycle words i => ((wordAt words i).toUInt32, cycle words (i + 1))

/-- A word of 64 bits: of a stream the next two words, the lower half first. -/
def draw64 : Source → UInt64 × Source
  | stream s =>
    let (low, s) := s.next
    let (high, s) := s.next
    ((high.toUInt64 <<< 32) ||| low.toUInt64, stream s)
  | cycle words i => (wordAt words i, cycle words (i + 1))

def wordCount : Nat := 4294967296

def widen (w : UInt32) (n : Nat) : Nat × Nat := (w.toNat * n / wordCount, w.toNat * n % wordCount)

/-- A number below n: the high word of a drawn word times n. Where the low word leaves it open
whether a longer word would carry, a second word decides. -/
def below (n : Nat) (s : Source) : Nat × Source :=
  let (w, s) := s.draw32
  let (high, low) := widen w n
  if wordCount - n < low then
    let (w, s) := s.draw32
    let carry := if wordCount ≤ low + (widen w n).1 then 1 else 0
    (high + carry, s)
  else (high, s)

/-- Whether an event of that probability occurs: a drawn word lies below p · 2 ^ 64. -/
def occurs (p : Float) (s : Source) : Bool × Source :=
  let (w, s) := s.draw64
  (decide (w.toNat < (Binary64.ofFloat p).floorScaled 64), s)

end Source

end Storyline.Random
