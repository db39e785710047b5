import Storyline.Content.Quest
import Storyline.Player.Basic

/-! What rewards, reputation, deeds and experience change in a player. -/
namespace Storyline

inductive Change where
  | stat (name : String) (delta : Int)
  | itemGained (item : String)
  | itemLost (item : String)
  | flag (name : String) (value : Bool)
  | reputation (faction : String) (delta : Int)

namespace Player

def resourceCap : Int := 100

def experiencePerLevel : Int := 100

def addStat (p : Player) (name : String) (delta : Int) : Player × Option Change :=
  match if delta = 0 then none else Stat.ofTag? name with
  | none => (p, none)
  | some stat =>
    ({ p with stats := p.stats.set stat (Bounded.add (p.stats.get stat) delta) },
      some (.stat (Text.lower name) delta))

/-- Shifts the standing with a faction inside its range; returns the shift that was left. -/
def adjustReputation (p : Player) (faction : String) (delta : Int) : Player × Int :=
  let before := p.standing faction
  let after := clampStanding (Bounded.add before delta)
  ({ p with reputation := p.reputation.insert faction after }, after - before)

def gainItem (p : Player) (item : String) : Player × Option Change :=
  if p.inventory.contains item then (p, none)
  else ({ p with inventory := p.inventory.insert item }, some (.itemGained item))

def loseItem (p : Player) (item : String) : Player × Option Change :=
  if p.inventory.contains item then
    ({ p with inventory := p.inventory.erase item }, some (.itemLost item))
  else (p, none)

def setFlag (p : Player) (name : String) (value : Bool) : Player × Option Change :=
  ({ p with flags := p.flags.insert name value }, some (.flag name value))

/-- Applies a reward; returns the change, if there was one. A negative amount takes an item away
and clears a flag. -/
def applyReward (p : Player) (r : Reward) : Player × Option Change :=
  let amount := roundToInt r.amount
  match r.kind with
  | .experience => p.addStat "experience" amount
  | .gold => p.addStat "gold" amount
  | .stat => p.addStat r.value amount
  | .item => if r.amount < 0.0 then p.loseItem r.value else p.gainItem r.value
  | .flag => p.setFlag r.value (r.amount ≥ 0.0)
  | .reputation =>
    let (p, delta) := p.adjustReputation r.value amount
    (p, if delta = 0 then none else some (.reputation r.value delta))

def shiftAlignment (p : Player) (delta : Alignment) : Player :=
  { p with alignment := (p.alignment.add delta).renormalize }

def levelFor (experience : Int) : Int := max 1 (experience.tdiv experiencePerLevel + 1)

/-- Raises the level to what the experience earns; health and mana then recover by ten. Returns the
former and the new level when it rose. -/
def updateLevel (p : Player) : Player × Option (Int × Int) :=
  let old := p.stats.level
  let new := levelFor p.stats.experience
  if new ≤ old then (p, none)
  else
    ({ p with stats := { p.stats with
        level := new
        health := min (Bounded.add p.stats.health 10) resourceCap
        mana := min (Bounded.add p.stats.mana 10) resourceCap } },
      some (old, new))

end Player

end Storyline
