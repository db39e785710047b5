import Storyline.Number.Bounded

/-! Simulated time in seconds against a budget. It only moves forward. -/
namespace Storyline

structure Clock where
  elapsed : Nat
  budget : Nat

namespace Clock

def ofMinutes (minutes : Nat) : Clock := ⟨0, minutes * 60⟩

def advance (c : Clock) (seconds : Nat) : Clock :=
  { c with elapsed := min (c.elapsed + seconds) Bounded.greatestWord }

def isExhausted (c : Clock) : Bool := c.budget ≤ c.elapsed

end Clock

end Storyline
