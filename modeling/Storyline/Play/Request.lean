import Storyline.Play.Transcript

/-! Requests to play one story arc of a project, alone or several at a time. -/
namespace Storyline

structure RunSettings where
  maxMinutes : Nat := 60
  style : PlayStyle := .balanced
  /-- Where there is none, the run takes a seed that is drawn for it. -/
  seed : Option Nat := none
  /-- Real seconds after which the run is cut short. -/
  deadlineSeconds : Nat := 5

structure PlayRequest where
  project : Option String := none
  storyArc : RecordId
  start : Option StartingPlayer := none
  playerName : Option String := none
  difficulty : Option Difficulty := none
  style : Option String := none
  maxMinutes : Option Nat := none
  seed : Option Nat := none

namespace PlayRequest

def settings (r : PlayRequest) : RunSettings :=
  { maxMinutes := r.maxMinutes.getD 60
    style := (r.style.map PlayStyle.ofTag).getD .balanced
    seed := r.seed }

def toJson (r : PlayRequest) : Json :=
  .object [
    ("project_id", Json.ofOptional .string r.project),
    ("story_arc_id", .string r.storyArc),
    ("initial_state", Json.ofOptional StartingPlayer.toJson r.start),
    ("player_name", Json.ofOptional .string r.playerName),
    ("difficulty", Json.ofOptional Difficulty.toJson r.difficulty),
    ("play_style", Json.ofOptional .string r.style),
    ("max_duration", Json.ofOptional (fun (n : Nat) => .integer n) r.maxMinutes),
    ("random_seed", Json.ofOptional (fun (n : Nat) => .integer n) r.seed)]

def ofJson? (j : Json) : Option PlayRequest := do
  let row ← j.row?
    ["project_id", "story_arc_id", "initial_state", "player_name", "difficulty", "play_style",
      "max_duration", "random_seed"]
  return {
    project := ← row.maybe "project_id" Json.text?
    storyArc := ← row.required "story_arc_id" Json.text?
    start := ← row.maybe "initial_state" StartingPlayer.ofJson?
    playerName := ← row.maybe "player_name" Json.text?
    difficulty := ← row.maybe "difficulty" Difficulty.ofJson?
    style := ← row.maybe "play_style" Json.text?
    maxMinutes := ← row.maybe "max_duration" (Json.natural? Quest.greatestMinutes)
    seed := ← row.maybe "random_seed" Json.word? }

end PlayRequest

inductive PlayError where
  | lookup (e : LookupError)
  | unknownSpeaker (dialogue character : RecordId)

def PlayError.message : PlayError → String
  | lookup e => e.message
  | unknownSpeaker dialogue character =>
    "dialogue " ++ dialogue ++ " refers to unknown character " ++ character

namespace Scenario

def missingSpeaker? (characters : List Character) (d : Dialogue) : Option RecordId :=
  d.character.filter fun id => !characters.any (·.id = id)

/-- Refuses a scenario with a dialogue whose speaker is unknown; the first one is named. -/
def check (s : Scenario) : Except PlayError Unit :=
  match s.dialogues.findSome? fun d => (missingSpeaker? s.characters d).map (d.id, ·) with
  | some (dialogue, character) => .error (.unknownSpeaker dialogue character)
  | none => .ok ()

/-- The quests of a story arc, the dialogues attached to them, and every character. -/
def ofArc (p : Project) (arc : RecordId) (style : PlayStyle) : Scenario :=
  let quests := p.questsInArc arc
  { quests
    dialogues := p.dialogues.filter fun d => d.quest.any fun id => quests.any (·.id = id)
    characters := p.characters
    style }

end Scenario

/-- What a run cannot know by itself: its stamp, a seed where none is asked for, and how many real
seconds have gone by after so many attempts. -/
structure Circumstances where
  stamp : Stamp
  freshSeed : Nat := 0
  realSeconds : Nat → Nat := fun _ => 0

def RunSettings.hasExpired (s : RunSettings) (realSeconds : Nat → Nat) (attempts : Nat) : Bool :=
  s.deadlineSeconds ≤ realSeconds attempts

def Scenario.play (s : Scenario) (start : StartingPlayer) (settings : RunSettings)
    (labels : RunLabels) (c : Circumstances) : Except PlayError Transcript := do
  s.check
  let seed := settings.seed.getD c.freshSeed
  let first := Run.start s start.player settings.maxMinutes (.ofSeed seed)
  let (last, termination) := first.toEnd s (settings.hasExpired c.realSeconds)
  return .ofRun c.stamp labels s.style seed first.player last termination

def Project.play (p : Project) (r : PlayRequest) (c : Circumstances) :
    Except PlayError Transcript := do
  let arc ← (p.storyArc r.storyArc).mapError .lookup
  let settings := r.settings
  let labels : RunLabels :=
    { project := r.project <|> p.id
      storyArc := some arc.id
      playerName := r.playerName.getD { : RunLabels }.playerName
      difficulty := r.difficulty.getD .medium }
  (Scenario.ofArc p arc.id settings.style).play (r.start.getD {}) settings labels c

structure BatchReport where
  total : Nat
  succeeded : Nat
  failed : Nat
  results : List Digest
  errors : List String

namespace BatchReport

def ofOutcomes (outcomes : List (Except PlayError Transcript)) : BatchReport :=
  let results := outcomes.filterMap fun o => o.toOption.map Transcript.digest
  let errors := outcomes.filterMap fun
    | .ok _ => none
    | .error e => some e.message
  { total := outcomes.length, succeeded := results.length, failed := errors.length, results, errors }

def toJson (b : BatchReport) : Json :=
  .object [
    ("total", .integer b.total),
    ("succeeded", .integer b.succeeded),
    ("failed", .integer b.failed),
    ("results", .array (b.results.map Digest.toJson)),
    ("errors", .array (b.errors.map .string))]

end BatchReport

end Storyline
