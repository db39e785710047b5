import Storyline.CommandLine.Command
import Storyline.CommandLine.Response
import Storyline.CommandLine.Table

/-! The commands that play story arcs: one arc in detail, and a list of requests at once. -/
namespace Storyline

namespace Event

def padLeft (width : Nat) (text : String) : String :=
  String.ofList (List.replicate (width - text.length) ' ') ++ text

def timeMark (e : Event) : String := "[" ++ padLeft 5 (toString e.timestamp) ++ "s]"

def logLine (e : Event) : String :=
  "  " ++ e.timeMark ++ " " ++ Table.padRight 18 e.kind.name ++ " " ++ e.description

def notableLine? (e : Event) : Option String :=
  match e.tone with
  | .error => some ("  FAIL  " ++ e.description)
  | .success => some ("  DONE  " ++ e.description)
  | _ => none

end Event

namespace Transcript

def percent (rate : Float) : String := Decimal.fixed 0 (rate * 100.0) ++ "%"

def headingLines (t : Transcript) (arc : RecordId) : List String :=
  ["  Simulation '" ++ arc ++ "' (style=" ++ t.style.name ++ ", seed=" ++ toString t.seed ++ ", "
      ++ toString t.seconds ++ "s simulated)",
    "  " ++ toString t.attempted ++ " attempted, " ++ toString t.completed ++ " completed, "
      ++ toString t.failed ++ " failed (" ++ percent t.successRate ++ " success)",
    "  Stopped: " ++ t.termination.phrase,
    "  Id: " ++ t.id.display,
    ""]

def logLines (t : Transcript) : List String :=
  let events := if t.events.isEmpty then ["  (no events)"] else t.events.map Event.logLine
  ["  Event Log", ""] ++ events ++ [""]

def notableLines (t : Transcript) : List String :=
  let notable := t.events.filterMap Event.notableLine?
  if notable.isEmpty then [] else ["  Notable Events"] ++ notable ++ [""]

def statTable (t : Transcript) : Table :=
  let row (name : String) (get : Player → Int) : List String :=
    [name, toString (get t.initial), toString (get t.final)]
  { header := ["Stat", "Start", "End"]
    rows := [
      row "Level" (·.stats.level),
      row "Experience" (·.stats.experience),
      row "Gold" (·.stats.gold),
      row "Health" (·.stats.health),
      row "Mana" (·.stats.mana),
      row "Good" (·.alignment.good),
      row "Neutral" (·.alignment.neutral),
      row "Evil" (·.alignment.evil)] }

def factionTable (t : Transcript) : Table :=
  { header := ["Faction", "Change", "Standing"]
    rows := t.reputationChanges.entries.map fun (faction, delta) =>
      [faction, Decimal.signedInt delta, toString (t.final.standing faction)] }

def playerLines (t : Transcript) : List String :=
  let factions := if t.reputationChanges.entries.isEmpty then [] else t.factionTable.lines ++ [""]
  let items := t.final.inventory.elements
  let inventory := if items.isEmpty then [] else ["  Inventory: " ++ ", ".intercalate items, ""]
  ["  Player", ""] ++ t.statTable.lines ++ [""] ++ factions ++ inventory

end Transcript

namespace BatchReport

def resultTable (b : BatchReport) : Table :=
  { header := ["Id", "Player", "Style", "Seed", "Done", "Failed", "XP", "Seconds", "Stopped"]
    rows := b.results.map fun d =>
      [d.id.display, d.playerName, d.style.name, toString d.seed, toString d.completed,
        toString d.failed, toString d.experienceGained, toString d.seconds, d.termination.phrase] }

def lines (b : BatchReport) : List String :=
  let results := if b.results.isEmpty then [] else b.resultTable.lines ++ [""]
  ["  Batch (" ++ toString b.total ++ " requests, " ++ toString b.succeeded ++ " succeeded, "
      ++ toString b.failed ++ " failed)",
    ""] ++ results ++ b.errors.map ("  FAIL " ++ ·)

end BatchReport

namespace Command

variable {m : Type → Type} [Monad m] [Surroundings m]

def requestOf (p : Project) (o : PlayOptions) : PlayRequest :=
  { project := p.id
    storyArc := o.arc
    playerName := o.player
    style := some o.style
    maxMinutes := some o.minutes
    seed := o.seed }

def runSimulate (path : String) (o : PlayOptions) (asJson : Bool) :
    ExceptT CommandFailure m Response := do
  let p ← CommandFailure.readProject path
  match p.play (requestOf p o) (← Surroundings.circumstances (m := m)) with
  | .error e => throw (.play e)
  | .ok t =>
    if let some folder := o.store then
      CommandFailure.ofArchive do
        Archive.openAt folder
        Archive.saveAt folder t
    let events := if o.verbose then t.logLines else t.notableLines
    let saved := o.store.map fun folder => "  Saved " ++ Archive.pathOf folder t.id
    return if asJson then .ofJson t.toJson
      else .ofLines (t.headingLines o.arc ++ events ++ t.playerLines ++ saved.toList)

def readRequests (path : String) : ExceptT CommandFailure m (List PlayRequest) := do
  match (Json.read? (← CommandFailure.readText path)).bind (Json.listOf? PlayRequest.ofJson?) with
  | none => throw (.noRequests path)
  | some [] => throw (.emptyRequests path)
  | some requests => return requests

/-- Keeps transcripts, each by itself; what cannot be kept is only complained about. -/
def saveAll (folder : String) (ts : List Transcript) : m (List String) := do
  let complaints ← ts.mapM fun t => do
    match ← (Archive.saveAt folder t).run with
    | .ok () => return none
    | .error e => return some ("save failed: " ++ e.message)
  return complaints.filterMap id

def runBatch (path requestsPath : String) (store : Option String) (asJson : Bool) :
    ExceptT CommandFailure m Response := do
  let p ← CommandFailure.readProject path
  let requests ← readRequests requestsPath
  let outcomes ← requests.mapM fun r => do
    return p.play r (← Surroundings.circumstances (m := m))
  let report := BatchReport.ofOutcomes outcomes
  let complaints ← match store with
    | none => pure []
    | some folder => do
      CommandFailure.ofArchive (Archive.openAt folder)
      saveAll (m := m) folder (outcomes.filterMap Except.toOption)
  let response : Response := if asJson then .ofJson report.toJson else .ofLines report.lines
  return { response with complaints }

end Command

end Storyline
