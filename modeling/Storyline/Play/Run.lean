import Storyline.Play.Attempt
import Storyline.Play.Clock
import Storyline.Play.Consequence
import Storyline.Play.Event
import Storyline.Play.Style
import Storyline.Player.Condition
import Storyline.Player.Reward

/-!
A run through the quests of a scenario. Each step picks one available quest and plays it to its end;
the run stops when the time budget or the content is used up, or when a deadline has passed.
-/
namespace Storyline

structure Scenario where
  quests : List Quest
  dialogues : List Dialogue
  characters : List Character
  style : PlayStyle

inductive Termination where
  | timeBudget
  | noAvailableQuests
  | deadline
  deriving DecidableEq

namespace Termination

def name : Termination → String
  | timeBudget => "time_budget"
  | noAvailableQuests => "no_available_quests"
  | deadline => "deadline"

def ofName? : String → Option Termination
  | "time_budget" => some timeBudget
  | "no_available_quests" => some noAvailableQuests
  | "deadline" => some deadline
  | _ => none

def phrase : Termination → String
  | timeBudget => "time budget used up"
  | noAvailableQuests => "no quests left to play"
  | deadline => "real-time deadline reached"

end Termination

structure Run where
  clock : Clock
  source : Random.Source
  log : EventLog := {}
  player : Player
  attempted : Nat := 0
  completed : Nat := 0
  failed : Nat := 0

namespace Run

def canStart (r : Run) (q : Quest) : Bool :=
  r.player.status q.id = .notStarted && q.prerequisites.all r.player.meetsPrerequisite

def available (s : Scenario) (r : Run) : List Nat :=
  (s.quests.zipIdx.filter fun (q, _) => r.canStart q).map (·.2)

def emit (r : Run) (e : Event) : Run := { r with log := r.log.push e }

def withPlayer (r : Run) (p : Player) : Run := { r with player := p }

def begin (r : Run) (q : Quest) (time : Nat) : Run :=
  { r with
    attempted := r.attempted + 1
    player := { r.player.setStatus q.id .inProgress with currentQuest := some q.id } }.emit
    { timestamp := time, kind := .questStart, description := "started \"" ++ q.title ++ "\"",
      data := .object [
        ("quest_id", .string q.id),
        ("quest_type", q.type.toJson),
        ("difficulty", q.difficulty.toJson)] }

def travelTo (r : Run) (place : String) (time : Nat) : Run :=
  let origin := r.player.location
  if place = origin then r
  else
    (r.withPlayer { r.player with location := place }).emit
      { timestamp := time, kind := .locationChange,
        description := "travelled from " ++ origin ++ " to " ++ place,
        data := .object [("from", .string origin), ("to", .string place)] }

def travel (r : Run) (q : Quest) (time : Nat) : Run :=
  match q.location with
  | some place => r.travelTo place time
  | none => r

def speaker (s : Scenario) (d : Dialogue) : String :=
  ((d.character.bind fun id => s.characters.find? (·.id = id)).map (·.name)).getD "narrator"

def lineEvent (s : Scenario) (time : Nat) (d : Dialogue) : Event :=
  { timestamp := time, kind := .dialogue, description := speaker s d ++ ": " ++ d.title,
    data := .object [("dialogue_id", .string d.id), ("speaker", .string (speaker s d))] }

def isSpoken (p : Player) (q : Quest) (d : Dialogue) : Bool :=
  decide (d.quest = some q.id) && d.conditions.all p.meets

def speakLine (s : Scenario) (time : Nat) (r : Run) (d : Dialogue) : Run :=
  (r.withPlayer { r.player with currentDialogue := some d.id }).emit (lineEvent s time d)

def speak (s : Scenario) (r : Run) (q : Quest) (time : Nat) : Run :=
  (s.dialogues.filter (isSpoken r.player q)).foldl (speakLine s time) r

/-- The event of a change; a shift of reputation tells the standing it led to. -/
def changeEvent (p : Player) (time : Nat) : Change → Event
  | .stat name delta =>
    { timestamp := time, kind := .statChange,
      description := name ++ " " ++ Decimal.signedInt delta,
      data := .object [("stat", .string name), ("delta", .integer delta)] }
  | .itemGained item =>
    { timestamp := time, kind := .itemGain, description := "received " ++ item,
      data := .object [("item", .string item)] }
  | .itemLost item =>
    { timestamp := time, kind := .itemLoss, description := "gave up " ++ item, tone := .warning,
      data := .object [("item", .string item)] }
  | .flag name value =>
    { timestamp := time, kind := .flagSet, description := name ++ " = " ++ toString value,
      data := .object [("flag", .string name), ("value", .bool value)] }
  | .reputation faction delta =>
    let standing := p.standing faction
    { timestamp := time, kind := .reputationChange,
      description :=
        faction ++ " standing " ++ Decimal.signedInt delta ++ " (" ++ toString standing ++ ")"
      tone := if delta < 0 then .warning else .info
      data := .object [
        ("faction", .string faction),
        ("delta", .integer delta),
        ("standing", .integer standing)] }

def record (r : Run) (time : Nat) (changed : Player × Option Change) : Run :=
  match changed with
  | (p, none) => r.withPlayer p
  | (p, some change) => (r.withPlayer p).emit (changeEvent p time change)

def reward (time : Nat) (r : Run) (reward : Reward) : Run :=
  r.record time (r.player.applyReward reward)

def levelUp (r : Run) (time : Nat) : Run :=
  match r.player.updateLevel with
  | (p, none) => r.withPlayer p
  | (p, some (old, new)) =>
    (r.withPlayer p).emit
      { timestamp := time, kind := .statChange, description := "reached level " ++ toString new,
        tone := .success
        data := .object [("stat", .string "level"), ("from", .integer old), ("to", .integer new)] }

def creditFaction (time : Nat) (r : Run) (credit : String × Int) : Run :=
  let (p, delta) := r.player.adjustReputation credit.1 credit.2
  r.record time (p, if delta = 0 then none else some (.reputation credit.1 delta))

def endEvent (q : Quest) (a : Attempt) (time : Nat) : Event :=
  { timestamp := time, kind := .questComplete
    description := (if a.success then "completed \"" else "failed \"") ++ q.title ++ "\""
    tone := if a.success then .success else .error
    data := .object [
      ("quest_id", .string q.id),
      ("success", .bool a.success),
      ("chance", .real a.chance),
      ("choices", .array (a.choices.map .string))] }

/-- Ends a quest with success: rewards, then a level, then reputation. -/
def complete (s : Scenario) (r : Run) (q : Quest) (a : Attempt) (time : Nat) : Run :=
  let r := { r with completed := r.completed + 1, player := r.player.setStatus q.id .completed }
  let r := a.rewards.foldl (reward time) (r.emit (endEvent q a time))
  (q.reputationDeltas s.characters).entries.foldl (creditFaction time) (r.levelUp time)

def fail (r : Run) (q : Quest) (a : Attempt) (time : Nat) : Run :=
  { r with failed := r.failed + 1, player := r.player.setStatus q.id .failed }.emit (endEvent q a time)

def judge (r : Run) (q : Quest) (a : Attempt) (time : Nat) : Run :=
  let delta := alignmentDelta q.type a.choices
  if delta.isZero then r
  else
    let before := r.player.alignment
    let r := r.withPlayer (r.player.shiftAlignment delta)
    let after := r.player.alignment
    let change := after.diff before
    if change.isZero then r
    else
      r.emit
        { timestamp := time, kind := .alignmentChange
          description :=
            "alignment now " ++ toString after.good ++ "/" ++ toString after.neutral ++ "/"
              ++ toString after.evil ++ " (good/neutral/evil)"
          data := .object [("delta", change.toJson), ("alignment", after.toJson)] }

def close (r : Run) (a : Attempt) : Run :=
  { r with
    player := { r.player with currentQuest := none, currentDialogue := none }
    clock := r.clock.advance a.seconds }

def play (s : Scenario) (r : Run) (q : Quest) : Run :=
  let start := r.clock.elapsed
  let r := ((r.begin q start).travel q start).speak s q start
  let (a, source) := q.attempt r.player r.source
  let r := { r with source }
  let finish := start + a.seconds
  let r := if a.success then r.complete s q a finish else r.fail q a finish
  (r.judge q a finish).close a

def pick (s : Scenario) (r : Run) : Option Quest × Random.Source :=
  let (i, source) := s.style.select s.quests (r.available s) r.source
  (i.bind fun i => s.quests[i]?, source)

def step (s : Scenario) (r : Run) : Run × Bool :=
  match pick s r with
  | (some q, source) => (play s { r with source } q, true)
  | (none, source) => ({ r with source }, false)

def step? (s : Scenario) (r : Run) : Option Run :=
  match step s r with
  | (next, true) => some next
  | (_, false) => none

/-- Plays on to the end. The budget is looked at first, then the deadline, asked with the count of
attempts so far, then the content. Every step ends a quest, so there are no more than quests. -/
def finish (s : Scenario) (expired : Nat → Bool) : Nat → Run → Run × Termination
  | fuel, r =>
    if r.clock.isExhausted then (r, .timeBudget)
    else if expired r.attempted then (r, .deadline)
    else
      match fuel, step? s r with
      | n + 1, some next => finish s expired n next
      | _, _ => (r, .noAvailableQuests)

def toEnd (s : Scenario) (expired : Nat → Bool) (r : Run) : Run × Termination :=
  finish s expired s.quests.length r

def enroll (quests : List Quest) (p : Player) : Player :=
  quests.foldl (fun p q => p.setStatus q.id .notStarted) p

def start (s : Scenario) (p : Player) (minutes : Nat) (source : Random.Source) : Run :=
  { clock := .ofMinutes minutes, source, player := enroll s.quests p }

def describe (s : Scenario) (r : Run) (seed : Nat) : String :=
  "Simulation \x7b seed: " ++ toString seed ++ ", elapsed: " ++ toString r.clock.elapsed
    ++ ", quests: " ++ toString s.quests.length ++ ", events: " ++ toString r.log.size ++ " \x7d"

end Run

end Storyline
