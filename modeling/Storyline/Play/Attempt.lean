import Storyline.Player.Basic
import Storyline.Content.Quest
import Storyline.Random.Source

/-!
One attempt at a quest: the chance of success, the choices made, the rewards, and the time it takes.
-/
namespace Storyline

structure Attempt where
  success : Bool
  chance : Float
  seconds : Nat
  choices : List String
  /-- Nothing after a failure. -/
  rewards : List Reward

namespace Quest

def baseChance : Float := 0.7

/-- Healthy fighters and seasoned talkers have a better chance. -/
def hasBonus (q : Quest) (p : Player) : Bool :=
  match q.type with
  | .combat => 80 < p.stats.health
  | .dialogue => 3 < p.stats.level
  | _ => false

def successChance (q : Quest) (p : Player) : Float :=
  if q.hasBonus p then baseChance + 0.1 else baseChance

/-- The choices a player makes on the way. They have no part in the success. -/
def choices (q : Quest) (p : Player) : List String :=
  match q.type with
  | .combat =>
    ["attack the enemy"] ++ if 5 ≤ p.stats.level then ["protect the innocent"] else []
  | .dialogue =>
    ["listen carefully"] ++ (if 2 < p.stats.level then ["agree to help"] else [])
      ++ if p.stats.gold < 50 then ["negotiate payment"] else []
  | .exploration =>
    ["explore the surroundings"] ++ if 50 < p.stats.mana then ["study the ruins"] else []
  | _ => []

def experiencePerDifficulty : Nat := 50

def goldPerDifficulty : Nat := 25

/-- The rewards of a quest that declares none. -/
def usualRewards (q : Quest) : List Reward :=
  let amount (n : Nat) : Float := Float.ofNat (n * q.difficulty.multiplier)
  [{ kind := .experience, value := "quest", amount := amount experiencePerDifficulty },
    { kind := .gold, value := "quest", amount := amount goldPerDifficulty }]

def typeRewards (q : Quest) : List Reward :=
  match q.type with
  | .combat => [{ kind := .item, value := "trophy_" ++ q.id, amount := 1.0 }]
  | .exploration =>
    [{ kind := .item, value := "map_fragment_" ++ q.id, amount := 1.0 },
      { kind := .flag, value := "explored_" ++ q.id, amount := 1.0 }]
  | .dialogue => [{ kind := .flag, value := "spoke_" ++ q.id, amount := 1.0 }]
  | _ => []

/-- The declared rewards, or the usual ones where none are declared, and those of the type. -/
def allRewards (q : Quest) : List Reward :=
  (if q.rewards.isEmpty then q.usualRewards else q.rewards) ++ q.typeRewards

def leastSeconds : Nat := 60

/-- The length of an attempt for a draw below 2 ^ 52. The factor lies between 3/4 and 5/4; it and
its product with the estimate are rounded to 53 binary digits, the product then to seconds. -/
def secondsFor (q : Quest) (draw : Nat) : Nat :=
  let factor := Rounding.toLeadingBits 53 (draw + 3 * Nat.pow 2 51)
  let product := Rounding.toLeadingBits 53 (q.minutes * 60 * factor)
  max leastSeconds (Rounding.halfUp product (Nat.pow 2 53))

def drawSeconds (q : Quest) (s : Random.Source) : Nat × Random.Source :=
  let (w, s) := s.draw64
  (q.secondsFor (w >>> 12).toNat, s)

def attempt (q : Quest) (p : Player) (s : Random.Source) : Attempt × Random.Source :=
  let chance := q.successChance p
  let (success, s) := s.occurs chance
  let (seconds, s) := q.drawSeconds s
  ({ success, chance, seconds, choices := q.choices p,
     rewards := if success then q.allRewards else [] }, s)

end Quest

end Storyline
