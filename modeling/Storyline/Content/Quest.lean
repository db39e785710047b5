import Storyline.Content.Condition

/-! Quests with what they grant and where they may lead. -/
namespace Storyline

inductive QuestType where
  | combat
  | dialogue
  | exploration
  | fetch
  | puzzle
  | escort
  | boss
  | diplomacy
  | betrayal
  | other
  deriving DecidableEq

namespace QuestType

def all : List QuestType :=
  [combat, dialogue, exploration, fetch, puzzle, escort, boss, diplomacy, betrayal, other]

def name : QuestType → String
  | combat => "combat"
  | dialogue => "dialogue"
  | exploration => "exploration"
  | fetch => "fetch"
  | puzzle => "puzzle"
  | escort => "escort"
  | boss => "boss"
  | diplomacy => "diplomacy"
  | betrayal => "betrayal"
  | other => "other"

/-- The category of that name; any name that is not listed is another category. -/
def ofName (name : String) : QuestType := (all.find? (·.name = name)).getD other

def toJson (t : QuestType) : Json := .string t.name

def ofJson? : Json → Option QuestType := Json.tag? (some ∘ ofName)

end QuestType

inductive Difficulty where
  | easy
  | medium
  | hard
  | epic
  deriving DecidableEq

namespace Difficulty

def name : Difficulty → String
  | easy => "easy"
  | medium => "medium"
  | hard => "hard"
  | epic => "epic"

def ofName? : String → Option Difficulty
  | "easy" => some easy
  | "medium" | "normal" => some medium
  | "hard" => some hard
  | "epic" => some epic
  | _ => none

def multiplier : Difficulty → Nat
  | easy => 1
  | medium => 2
  | hard => 3
  | epic => 4

def toJson (d : Difficulty) : Json := .string d.name

def ofJson? : Json → Option Difficulty := Json.tag? ofName?

end Difficulty

inductive RewardKind where
  | experience
  | gold
  | item
  | flag
  | stat
  | reputation
  deriving DecidableEq

namespace RewardKind

def name : RewardKind → String
  | experience => "experience"
  | gold => "gold"
  | item => "item"
  | flag => "flag"
  | stat => "stat"
  | reputation => "reputation"

def ofName? : String → Option RewardKind
  | "experience" => some experience
  | "gold" => some gold
  | "item" => some item
  | "flag" => some flag
  | "stat" => some stat
  | "reputation" => some reputation
  | _ => none

end RewardKind

/-- What a success grants: so much of a kind, to the item, flag, stat or faction named. -/
structure Reward where
  kind : RewardKind
  value : String := ""
  amount : Float := 0.0

namespace Reward

def toJson (r : Reward) : Json :=
  .object [
    ("type", .string r.kind.name),
    ("value", .string r.value),
    ("amount", Json.ofNumber r.amount)]

def ofJson? (j : Json) : Option Reward := do
  let row ← j.row? ["type", "value", "amount"]
  return {
    kind := ← row.required "type" (Json.tag? RewardKind.ofName?)
    value := ← row.withDefault "value" "" Json.text?
    amount := ← row.withDefault "amount" 0.0 Json.number? }

end Reward

inductive OutcomeKind where
  | success
  | failure
  | partly
  | branch
  deriving DecidableEq

namespace OutcomeKind

def name : OutcomeKind → String
  | success => "success"
  | failure => "failure"
  | partly => "partial"
  | branch => "branch"

def ofName? : String → Option OutcomeKind
  | "success" => some success
  | "failure" => some failure
  | "partial" => some partly
  | "branch" => some branch
  | _ => none

end OutcomeKind

/-- A declared outcome of a quest, with its likelihood in percent. -/
structure Outcome where
  id : Option RecordId := none
  kind : OutcomeKind
  description : String := ""
  conditions : List AuthoredCondition := []
  rewards : List Reward := []
  nextQuest : Option RecordId := none
  probability : Float := 0.0

namespace Outcome

def toJson (o : Outcome) : Json :=
  .object [
    ("id", Json.ofOptional .string o.id),
    ("type", .string o.kind.name),
    ("description", .string o.description),
    ("conditions", .array (o.conditions.map AuthoredCondition.toJson)),
    ("rewards", .array (o.rewards.map Reward.toJson)),
    ("next_quest_id", Json.ofOptional .string o.nextQuest),
    ("probability", Json.ofNumber o.probability)]

def ofJson? (j : Json) : Option Outcome := do
  let row ← j.row?
    ["id", "type", "description", "conditions", "rewards", "next_quest_id", "probability"]
  return {
    id := ← row.maybe "id" Json.text?
    kind := ← row.required "type" (Json.tag? OutcomeKind.ofName?)
    description := ← row.withDefault "description" "" Json.text?
    conditions := ← row.withDefault "conditions" [] (Json.listOf? AuthoredCondition.ofJson?)
    rewards := ← row.withDefault "rewards" [] (Json.listOf? Reward.ofJson?)
    nextQuest := ← row.maybe "next_quest_id" Json.text?
    probability := ← row.withDefault "probability" 0.0 Json.number? }

end Outcome

structure Quest where
  id : RecordId
  storyArc : Option RecordId := none
  title : String := ""
  description : String := ""
  type : QuestType := .other
  difficulty : Difficulty := .medium
  estimatedMinutes : Option Nat := none
  location : Option String := none
  prerequisites : List AuthoredCondition := []
  rewards : List Reward := []
  outcomes : List Outcome := []

namespace Quest

def defaultMinutes : Nat := 30

def minutes (q : Quest) : Nat := q.estimatedMinutes.getD defaultMinutes

def prerequisiteQuests (q : Quest) : List RecordId :=
  q.prerequisites.filterMap (·.referencedQuest?)

def nextQuests (q : Quest) : List RecordId := q.outcomes.filterMap (·.nextQuest)

def requires (q : Quest) (quest : RecordId) : Quest :=
  { q with prerequisites := q.prerequisites ++ [.questCompleted quest] }

def withOutcome (q : Quest) (o : Outcome) : Quest := { q with outcomes := q.outcomes ++ [o] }

def toJson (q : Quest) : Json :=
  .object [
    ("id", .string q.id),
    ("story_arc_id", Json.ofOptional .string q.storyArc),
    ("title", .string q.title),
    ("description", .string q.description),
    ("type", q.type.toJson),
    ("difficulty", q.difficulty.toJson),
    ("estimated_duration", Json.ofOptional (fun (n : Nat) => .integer n) q.estimatedMinutes),
    ("location", Json.ofOptional .string q.location),
    ("prerequisites", .array (q.prerequisites.map AuthoredCondition.toJson)),
    ("rewards", .array (q.rewards.map Reward.toJson)),
    ("outcomes", .array (q.outcomes.map Outcome.toJson))]

def greatestMinutes : Nat := 4294967295

def ofJson? (j : Json) : Option Quest := do
  let row ← j.row?
    ["id", "story_arc_id", "title", "description", "type", "difficulty", "estimated_duration",
      "location", "prerequisites", "rewards", "outcomes"]
  return {
    id := ← row.required "id" Json.text?
    storyArc := ← row.maybe "story_arc_id" Json.text?
    title := ← row.withDefault "title" "" Json.text?
    description := ← row.withDefault "description" "" Json.text?
    type := ← row.withDefault "type" .other QuestType.ofJson?
    difficulty := ← row.withDefault "difficulty" .medium Difficulty.ofJson?
    estimatedMinutes := ← row.maybe "estimated_duration" (Json.natural? greatestMinutes)
    location := ← row.maybe "location" Json.text?
    prerequisites := ←
      row.withDefault "prerequisites" [] (Json.listOf? AuthoredCondition.ofJson?)
    rewards := ← row.withDefault "rewards" [] (Json.listOf? Reward.ofJson?)
    outcomes := ← row.withDefault "outcomes" [] (Json.listOf? Outcome.ofJson?) }

end Quest

end Storyline
