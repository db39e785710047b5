import Storyline.Json.Record

/-!
The moral standing of a player: shares of good, neutral and evil that add up to one hundred once
they are normalized.
-/
namespace Storyline

@[ext] structure Alignment where
  good : Int := 0
  neutral : Int := 100
  evil : Int := 0
  deriving DecidableEq

namespace Alignment

def zero : Alignment := ⟨0, 0, 0⟩

def total (a : Alignment) : Int := Bounded.add (Bounded.add a.good a.neutral) a.evil

def isZero (a : Alignment) : Bool := a.good = 0 && a.neutral = 0 && a.evil = 0

def add (a b : Alignment) : Alignment :=
  ⟨Bounded.add a.good b.good, Bounded.add a.neutral b.neutral, Bounded.add a.evil b.evil⟩

def diff (a b : Alignment) : Alignment :=
  ⟨Bounded.sub a.good b.good, Bounded.sub a.neutral b.neutral, Bounded.sub a.evil b.evil⟩

/-- Scales the shares to one hundred. Good and neutral are rounded down and evil takes the rest;
negative shares count as zero, and nothing at all is neutral. -/
def renormalize (a : Alignment) : Alignment :=
  let good := max a.good 0
  let neutral := max a.neutral 0
  let total := good + neutral + max a.evil 0
  if total = 0 then {}
  else
    let good := good * 100 / total
    let neutral := neutral * 100 / total
    ⟨good, neutral, 100 - good - neutral⟩

def toJson (a : Alignment) : Json :=
  .object [
    ("good", .integer a.good),
    ("neutral", .integer a.neutral),
    ("evil", .integer a.evil)]

def ofJson? (j : Json) : Option Alignment := do
  let row ← j.row? ["good", "neutral", "evil"]
  return {
    good := ← row.required "good" Json.integer?
    neutral := ← row.required "neutral" Json.integer?
    evil := ← row.required "evil" Json.integer? }

end Alignment

inductive Leaning where
  | good
  | neutral
  | evil
  deriving DecidableEq

namespace Leaning

def name : Leaning → String
  | good => "good"
  | neutral => "neutral"
  | evil => "evil"

def heading : Leaning → String
  | good => "Good"
  | neutral => "Neutral"
  | evil => "Evil"

end Leaning

/-- The greatest share; on a tie neutral goes before good, and good before evil. -/
def Alignment.dominant (a : Alignment) : Leaning :=
  let top := max (max a.good a.neutral) a.evil
  if a.neutral = top then .neutral else if a.good = top then .good else .evil

end Storyline
