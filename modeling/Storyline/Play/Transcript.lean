import Storyline.Archive.Timestamp
import Storyline.Archive.Uuid
import Storyline.Content.Project
import Storyline.Json.Writer
import Storyline.Play.Run

/-! Transcripts of finished runs: how a run began and ended, and all that happened between. -/
namespace Storyline

structure Stamp where
  id : Uuid
  createdAt : Timestamp

structure RunLabels where
  project : Option String := none
  storyArc : Option RecordId := none
  playerName : String := "Simulated Player"
  difficulty : Difficulty := .medium

structure Transcript where
  id : Uuid
  project : Option String
  storyArc : Option RecordId
  playerName : String
  style : PlayStyle
  difficulty : Difficulty
  seed : Nat
  initial : Player
  final : Player
  events : List Event
  attempted : Nat
  completed : Nat
  failed : Nat
  seconds : Nat
  experienceGained : Int
  /-- Final less initial standing of each faction where they differ. -/
  reputationChanges : SortedMap String Int
  alignmentChanges : Alignment
  termination : Termination
  createdAt : Timestamp

namespace Transcript

def successRate (t : Transcript) : Float :=
  if t.attempted = 0 then 0.0 else Float.ofNat t.completed / Float.ofNat t.attempted

def reputationDiff (initial final : Player) : SortedMap String Int :=
  (SortedMap.ofList ((initial.reputation.keys ++ final.reputation.keys).map fun f =>
    (f, final.standing f - initial.standing f))).filter fun _ delta => delta ≠ 0

def ofRun (stamp : Stamp) (labels : RunLabels) (style : PlayStyle) (seed : Nat) (initial : Player)
    (r : Run) (termination : Termination) : Transcript :=
  { id := stamp.id
    project := labels.project
    storyArc := labels.storyArc
    playerName := labels.playerName
    style
    difficulty := labels.difficulty
    seed
    initial
    final := r.player
    events := r.log.events.toList
    attempted := r.attempted
    completed := r.completed
    failed := r.failed
    seconds := r.clock.elapsed
    experienceGained := Bounded.sub r.player.stats.experience initial.stats.experience
    reputationChanges := reputationDiff initial r.player
    alignmentChanges := r.player.alignment.diff initial.alignment
    termination
    createdAt := stamp.createdAt }

def toJson (t : Transcript) : Json :=
  .object [
    ("id", .string t.id.display),
    ("project_id", Json.ofOptional .string t.project),
    ("story_arc_id", Json.ofOptional .string t.storyArc),
    ("player_name", .string t.playerName),
    ("play_style", .string t.style.name),
    ("difficulty", t.difficulty.toJson),
    ("seed", .integer t.seed),
    ("initial_state", t.initial.toJson),
    ("final_state", t.final.toJson),
    ("events", .array (t.events.map Event.toJson)),
    ("quests_attempted", .integer t.attempted),
    ("quests_completed", .integer t.completed),
    ("quests_failed", .integer t.failed),
    ("duration_seconds", .integer t.seconds),
    ("experience_gained", .integer t.experienceGained),
    ("reputation_changes", Json.ofNamedMap .integer t.reputationChanges),
    ("alignment_changes", t.alignmentChanges.toJson),
    ("termination", .string t.termination.name),
    ("created_at", .string t.createdAt.display)]

def uuid? (j : Json) : Option Uuid := j.text?.bind Uuid.read?

def timestamp? (j : Json) : Option Timestamp := j.text?.bind Timestamp.read?

def ofJson? (j : Json) : Option Transcript := do
  let row ← j.row?
    ["id", "project_id", "story_arc_id", "player_name", "play_style", "difficulty", "seed",
      "initial_state", "final_state", "events", "quests_attempted", "quests_completed",
      "quests_failed", "duration_seconds", "experience_gained", "reputation_changes",
      "alignment_changes", "termination", "created_at"]
  return {
    id := ← row.required "id" uuid?
    project := ← row.nullable "project_id" Json.text?
    storyArc := ← row.nullable "story_arc_id" Json.text?
    playerName := ← row.required "player_name" Json.text?
    style := ← row.required "play_style" (Json.tag? PlayStyle.ofName?)
    difficulty := ← row.required "difficulty" Difficulty.ofJson?
    seed := ← row.required "seed" Json.word?
    initial := ← row.required "initial_state" Player.ofJson?
    final := ← row.required "final_state" Player.ofJson?
    events := ← row.required "events" (Json.listOf? Event.ofJson?)
    attempted := ← row.required "quests_attempted" Json.word?
    completed := ← row.required "quests_completed" Json.word?
    failed := ← row.required "quests_failed" Json.word?
    seconds := ← row.required "duration_seconds" Json.word?
    experienceGained := ← row.required "experience_gained" Json.integer?
    reputationChanges := ← row.required "reputation_changes" (Json.namedMap? Json.integer?)
    alignmentChanges := ← row.required "alignment_changes" Alignment.ofJson?
    termination := ← row.required "termination" (Json.tag? Termination.ofName?)
    createdAt := ← row.required "created_at" timestamp? }

def depthLimit : Nat := 127

def dataDepth : Nat := 3

/-- Reads a stored document. The data of events may not be nested too deeply. -/
def read? (text : String) : Option Transcript := do
  let t ← (Json.read? text).bind ofJson?
  if t.events.all fun e => e.data.depth + dataDepth ≤ depthLimit then return t else none

def write (t : Transcript) : String := t.toJson.pretty

end Transcript

structure Digest where
  id : Uuid
  playerName : String
  style : PlayStyle
  seed : Nat
  completed : Nat
  failed : Nat
  seconds : Nat
  experienceGained : Int
  events : Nat
  termination : Termination

def Transcript.digest (t : Transcript) : Digest :=
  { id := t.id, playerName := t.playerName, style := t.style, seed := t.seed,
    completed := t.completed, failed := t.failed, seconds := t.seconds,
    experienceGained := t.experienceGained, events := t.events.length,
    termination := t.termination }

def Digest.toJson (d : Digest) : Json :=
  .object [
    ("id", .string d.id.display),
    ("player_name", .string d.playerName),
    ("play_style", .string d.style.name),
    ("seed", .integer d.seed),
    ("quests_completed", .integer d.completed),
    ("quests_failed", .integer d.failed),
    ("duration_seconds", .integer d.seconds),
    ("experience_gained", .integer d.experienceGained),
    ("event_count", .integer d.events),
    ("termination", .string d.termination.name)]

end Storyline
