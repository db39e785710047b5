import Storyline.Content.Condition
import Storyline.Player.Alignment
import Storyline.Player.Stats
import Storyline.Sorted.Set

/-! The state of a player, and the state a player starts a run in. -/
namespace Storyline

inductive QuestStatus where
  | notStarted
  | inProgress
  | completed
  | failed
  deriving DecidableEq

namespace QuestStatus

def name : QuestStatus → String
  | notStarted => "not_started"
  | inProgress => "in_progress"
  | completed => "completed"
  | failed => "failed"

def ofName? : String → Option QuestStatus
  | "not_started" => some notStarted
  | "in_progress" => some inProgress
  | "completed" => some completed
  | "failed" => some failed
  | _ => none

def isTerminal : QuestStatus → Bool
  | completed | failed => true
  | notStarted | inProgress => false

end QuestStatus

@[ext] structure QuestProgress where
  status : QuestStatus := .notStarted
  percent : Nat := 0
  objectives : SortedMap String Bool := ∅

namespace QuestProgress

/-- Moves to a status; a quest not started stands at none, one that has ended at one hundred. -/
def moveTo (p : QuestProgress) (status : QuestStatus) : QuestProgress :=
  { p with
    status
    percent := match status with
      | .notStarted => 0
      | .inProgress => p.percent
      | .completed | .failed => 100 }

def toJson (p : QuestProgress) : Json :=
  .object [
    ("status", .string p.status.name),
    ("progress", .integer p.percent),
    ("objectives", Json.ofNamedMap .bool p.objectives)]

def ofJson? (j : Json) : Option QuestProgress := do
  let row ← j.row? ["status", "progress", "objectives"]
  return {
    status := ← row.required "status" (Json.tag? QuestStatus.ofName?)
    percent := ← row.required "progress" (Json.natural? 255)
    objectives := ← row.withDefault "objectives" ∅ (Json.namedMap? Json.flag?) }

end QuestProgress

@[ext] structure Player where
  stats : Stats := {}
  reputation : SortedMap String Int := ∅
  alignment : Alignment := {}
  inventory : SortedSet String := ∅
  flags : SortedMap String Bool := ∅
  quests : SortedMap RecordId QuestProgress := ∅
  location : String := "start"
  currentQuest : Option RecordId := none
  currentDialogue : Option RecordId := none

namespace Player

def standingLimit : Int := 100

def clampStanding (n : Int) : Int := max (-standingLimit) (min standingLimit n)

def standing (p : Player) (faction : String) : Int := p.reputation.getD faction 0

def status (p : Player) (quest : RecordId) : QuestStatus :=
  ((p.quests.get? quest).map (·.status)).getD .notStarted

def setStatus (p : Player) (quest : RecordId) (status : QuestStatus) : Player :=
  { p with quests := p.quests.insert quest ((p.quests.getD quest {}).moveTo status) }

def toJson (p : Player) : Json :=
  .object [
    ("stats", p.stats.toJson),
    ("reputation", Json.ofNamedMap .integer p.reputation),
    ("alignment", p.alignment.toJson),
    ("inventory", .array (p.inventory.elements.map .string)),
    ("flags", Json.ofNamedMap .bool p.flags),
    ("quest_progress", Json.ofNamedMap QuestProgress.toJson p.quests),
    ("current_location", .string p.location),
    ("current_quest", Json.ofOptional .string p.currentQuest),
    ("current_dialogue", Json.ofOptional .string p.currentDialogue)]

def ofJson? (j : Json) : Option Player := do
  let row ← j.row?
    ["stats", "reputation", "alignment", "inventory", "flags", "quest_progress",
      "current_location", "current_quest", "current_dialogue"]
  return {
    stats := ← row.required "stats" Stats.ofJson?
    reputation := ← row.required "reputation" (Json.namedMap? Json.integer?)
    alignment := ← row.required "alignment" Alignment.ofJson?
    inventory := .ofList (← row.required "inventory" (Json.listOf? Json.text?))
    flags := ← row.required "flags" (Json.namedMap? Json.flag?)
    quests := ← row.required "quest_progress" (Json.namedMap? QuestProgress.ofJson?)
    location := ← row.required "current_location" Json.text?
    currentQuest := ← row.nullable "current_quest" Json.text?
    currentDialogue := ← row.nullable "current_dialogue" Json.text? }

end Player

structure StartingStats where
  health : Option Int := none
  mana : Option Int := none
  experience : Option Int := none
  level : Option Int := none
  gold : Option Int := none

namespace StartingStats

def applyTo (o : StartingStats) (s : Stats) : Stats :=
  { health := o.health.getD s.health
    mana := o.mana.getD s.mana
    experience := o.experience.getD s.experience
    level := o.level.getD s.level
    gold := o.gold.getD s.gold }

def toJson (o : StartingStats) : Json :=
  .object [
    ("health", Json.ofOptional .integer o.health),
    ("mana", Json.ofOptional .integer o.mana),
    ("experience", Json.ofOptional .integer o.experience),
    ("level", Json.ofOptional .integer o.level),
    ("gold", Json.ofOptional .integer o.gold)]

def ofJson? (j : Json) : Option StartingStats := do
  let row ← j.row? ["health", "mana", "experience", "level", "gold"]
  return {
    health := ← row.maybe "health" Json.integer?
    mana := ← row.maybe "mana" Json.integer?
    experience := ← row.maybe "experience" Json.integer?
    level := ← row.maybe "level" Json.integer?
    gold := ← row.maybe "gold" Json.integer? }

end StartingStats

structure StartingPlayer where
  stats : StartingStats := {}
  reputation : SortedMap String Int := ∅
  alignment : Option Alignment := none
  inventory : List String := []
  flags : SortedMap String Bool := ∅
  location : Option String := none

namespace StartingPlayer

/-- The player that starts: standing is brought into its range and the alignment normalized. -/
def player (o : StartingPlayer) : Player :=
  { stats := o.stats.applyTo {}
    reputation := .ofList (o.reputation.entries.map fun e => (e.1, Player.clampStanding e.2))
    alignment := (o.alignment.map Alignment.renormalize).getD {}
    inventory := .ofList o.inventory
    flags := o.flags
    location := o.location.getD "start" }

def toJson (o : StartingPlayer) : Json :=
  .object [
    ("stats", o.stats.toJson),
    ("reputation", Json.ofNamedMap .integer o.reputation),
    ("alignment", Json.ofOptional Alignment.toJson o.alignment),
    ("inventory", .array (o.inventory.map .string)),
    ("flags", Json.ofNamedMap .bool o.flags),
    ("current_location", Json.ofOptional .string o.location)]

def ofJson? (j : Json) : Option StartingPlayer := do
  let row ← j.row? ["stats", "reputation", "alignment", "inventory", "flags", "current_location"]
  return {
    stats := ← row.withDefault "stats" {} StartingStats.ofJson?
    reputation := ← row.withDefault "reputation" ∅ (Json.namedMap? Json.integer?)
    alignment := ← row.maybe "alignment" Alignment.ofJson?
    inventory := ← row.withDefault "inventory" [] (Json.listOf? Json.text?)
    flags := ← row.withDefault "flags" ∅ (Json.namedMap? Json.flag?)
    location := ← row.maybe "current_location" Json.text? }

end StartingPlayer

end Storyline
