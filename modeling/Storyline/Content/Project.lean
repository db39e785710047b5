import Storyline.Content.Quest
import Storyline.Json.Reader

/-! The narrative content of one project: story arcs, quests, dialogues and characters. -/
namespace Storyline

structure StoryArc where
  id : RecordId
  title : String := ""
  description : String := ""

namespace StoryArc

def toJson (a : StoryArc) : Json :=
  .object [("id", .string a.id), ("title", .string a.title), ("description", .string a.description)]

def ofJson? (j : Json) : Option StoryArc := do
  let row ← j.row? ["id", "title", "description"]
  return {
    id := ← row.required "id" Json.text?
    title := ← row.withDefault "title" "" Json.text?
    description := ← row.withDefault "description" "" Json.text? }

end StoryArc

/-- A line of dialogue, played when its quest is and its conditions hold. -/
structure Dialogue where
  id : RecordId
  quest : Option RecordId := none
  character : Option RecordId := none
  title : String := ""
  content : String := ""
  conditions : List AuthoredCondition := []

namespace Dialogue

def toJson (d : Dialogue) : Json :=
  .object [
    ("id", .string d.id),
    ("quest_id", Json.ofOptional .string d.quest),
    ("character_id", Json.ofOptional .string d.character),
    ("title", .string d.title),
    ("content", .string d.content),
    ("conditions", .array (d.conditions.map AuthoredCondition.toJson))]

def ofJson? (j : Json) : Option Dialogue := do
  let row ← j.row? ["id", "quest_id", "character_id", "title", "content", "conditions"]
  return {
    id := ← row.required "id" Json.text?
    quest := ← row.maybe "quest_id" Json.text?
    character := ← row.maybe "character_id" Json.text?
    title := ← row.withDefault "title" "" Json.text?
    content := ← row.withDefault "content" "" Json.text?
    conditions := ← row.withDefault "conditions" [] (Json.listOf? AuthoredCondition.ofJson?) }

end Dialogue

structure Character where
  id : RecordId
  name : String
  faction : Option String := none
  personality : List String := []

namespace Character

def hasTrait (c : Character) (word : String) : Bool :=
  c.personality.any fun p => Text.occursIn (Text.lower word) (Text.lower p)

/-- The faction that standing is credited to; a character without one stands for itself. -/
def factionKey (c : Character) : String := c.faction.getD c.name

def toJson (c : Character) : Json :=
  .object [
    ("id", .string c.id),
    ("name", .string c.name),
    ("faction", Json.ofOptional .string c.faction),
    ("personality", .array (c.personality.map .string))]

def ofJson? (j : Json) : Option Character := do
  let row ← j.row? ["id", "name", "faction", "personality"]
  return {
    id := ← row.required "id" Json.text?
    name := ← row.required "name" Json.text?
    faction := ← row.maybe "faction" Json.text?
    personality := ← row.withDefault "personality" [] (Json.listOf? Json.text?) }

end Character

inductive LookupError where
  | quest (id : RecordId)
  | storyArc (id : RecordId)
  | character (id : RecordId)

def LookupError.message : LookupError → String
  | quest id => "quest not found: " ++ id
  | storyArc id => "story arc not found: " ++ id
  | character id => "character not found: " ++ id

structure Project where
  id : Option RecordId := none
  name : String := ""
  storyArcs : List StoryArc := []
  quests : List Quest := []
  dialogues : List Dialogue := []
  characters : List Character := []

namespace Project

def quest (p : Project) (id : RecordId) : Except LookupError Quest :=
  match p.quests.find? (·.id = id) with
  | some q => .ok q
  | none => .error (.quest id)

def storyArc (p : Project) (id : RecordId) : Except LookupError StoryArc :=
  match p.storyArcs.find? (·.id = id) with
  | some a => .ok a
  | none => .error (.storyArc id)

def character (p : Project) (id : RecordId) : Except LookupError Character :=
  match p.characters.find? (·.id = id) with
  | some c => .ok c
  | none => .error (.character id)

def questsInArc (p : Project) (arc : RecordId) : List Quest :=
  p.quests.filter fun q => q.storyArc = some arc

def toJson (p : Project) : Json :=
  .object [
    ("id", Json.ofOptional .string p.id),
    ("name", .string p.name),
    ("story_arcs", .array (p.storyArcs.map StoryArc.toJson)),
    ("quests", .array (p.quests.map Quest.toJson)),
    ("dialogues", .array (p.dialogues.map Dialogue.toJson)),
    ("characters", .array (p.characters.map Character.toJson))]

def ofJson? (j : Json) : Option Project := do
  let row ← j.row? ["id", "name", "story_arcs", "quests", "dialogues", "characters"]
  return {
    id := ← row.maybe "id" Json.text?
    name := ← row.withDefault "name" "" Json.text?
    storyArcs := ← row.withDefault "story_arcs" [] (Json.listOf? StoryArc.ofJson?)
    quests := ← row.withDefault "quests" [] (Json.listOf? Quest.ofJson?)
    dialogues := ← row.withDefault "dialogues" [] (Json.listOf? Dialogue.ofJson?)
    characters := ← row.withDefault "characters" [] (Json.listOf? Character.ofJson?) }

def read? (text : String) : Option Project := (Json.read? text).bind ofJson?

end Project

end Storyline
