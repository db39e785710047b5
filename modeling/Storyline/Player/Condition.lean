import Storyline.Player.Basic

/-!
Whether conditions hold for a player. Lines of dialogue go by the operator of a condition.
Prerequisites of quests go by its subject alone: the operator is not looked at.
-/
namespace Storyline.Player

def holds (p : Player) (item : String) : Bool := p.inventory.contains item

def hasCompleted (p : Player) (quest : RecordId) : Bool := p.status quest = .completed

/-- A condition goes by its operator. A missing truth value is expected to be true; a held item
counts as one where a number is asked for. -/
def satisfies (p : Player) (c : Condition) : Bool :=
  let expected := c.value.asBool?.getD true
  match c.subject with
  | .quest => c.operator.compareBool (p.hasCompleted c.target) expected
  | .flag => c.operator.compareBool (p.flags.getD c.target false) expected
  | .inventory =>
    match c.operator.isMembership, c.value.asNumber? with
    | false, some n => c.operator.compare (if p.holds c.target then 1.0 else 0.0) n
    | _, _ => c.operator.compareBool (p.holds c.target) expected
  | .stat =>
    match p.stats.named? c.target, c.value.asNumber? with
    | some stat, some n => c.operator.compare (Float.ofInt stat) n
    | _, _ => false
  | .reputation =>
    match c.value.asNumber? with
    | some n => c.operator.compare (Float.ofInt (p.standing c.target)) n
    | none => false

/-- Whether an authored condition holds; one that is no condition never does. -/
def meets (p : Player) (c : AuthoredCondition) : Bool :=
  match Condition.ofAuthored c with
  | .ok c => p.satisfies c
  | .error _ => false

/-- The rule for prerequisites: a quest is completed, a stat or standing is at least the value, a
flag is set to the value, an item is held. -/
def satisfiesPrerequisite (p : Player) (c : Condition) : Bool :=
  match c.subject with
  | .quest => p.hasCompleted c.target
  | .stat =>
    match p.stats.named? c.target, c.value.asNumber? with
    | some stat, some n => Float.ofInt stat ≥ n
    | _, _ => false
  | .flag => p.flags.get? c.target == some (c.value.asBool?.getD true)
  | .reputation =>
    match c.value.asNumber? with
    | some n => Float.ofInt (p.standing c.target) ≥ n
    | none => false
  | .inventory => p.holds c.target

def meetsPrerequisite (p : Player) (c : AuthoredCondition) : Bool :=
  match Condition.ofAuthored c with
  | .ok c => p.satisfiesPrerequisite c
  | .error _ => false

end Storyline.Player
