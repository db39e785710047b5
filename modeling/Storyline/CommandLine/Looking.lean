import Storyline.CommandLine.Playing
import Storyline.Insight.Analysis
import Storyline.Insight.Comparison

/-! The commands that look at stored transcripts: one in depth, and several side by side. -/
namespace Storyline

namespace Comparison

def styleTableText (c : Comparison) : Table :=
  { header := ["Style", "Runs", "Avg XP", "Avg Completed", "Success"]
    rows := c.styles.map fun (style, figures) =>
      [style.name, toString figures.count, Decimal.fixed 1 figures.averageExperience,
        Decimal.fixed 2 figures.averageCompleted, Transcript.percent figures.successRate] }

def factionTable (c : Comparison) : Table :=
  { header := ["Faction", "Sum", "Runs", "Average"]
    rows := c.factions.entries.map fun (faction, shift) =>
      [faction, Decimal.signedInt shift.sum, toString shift.count,
        Decimal.fixedSigned 2 shift.average] }

def lines (c : Comparison) : List String :=
  let styles := if c.styles.isEmpty then [] else c.styleTableText.lines ++ [""]
  let factions := if c.factions.entries.isEmpty then [] else c.factionTable.lines
  ["  Comparison (" ++ toString c.total ++ " simulations)",
    "  avg duration " ++ Decimal.fixed 0 c.averageSeconds ++ "s, avg experience "
      ++ Decimal.fixed 1 c.averageExperience ++ ", avg quests completed "
      ++ Decimal.fixed 2 c.averageCompleted,
    "  alignment: " ++ toString c.leanings.good ++ " good, " ++ toString c.leanings.neutral
      ++ " neutral, " ++ toString c.leanings.evil ++ " evil",
    ""] ++ styles ++ factions

end Comparison

namespace Analysis

def factionTable (a : Analysis) : Table :=
  let t := a.transcript
  { header := ["Faction", "Change", "Final"]
    rows := t.final.reputation.entries.map fun (faction, standing) =>
      [faction, Decimal.signedInt (t.reputationChanges.getD faction 0), toString standing] }

def reputationLines (a : Analysis) : List String :=
  if a.transcript.final.reputation.entries.isEmpty then []
  else
    ["  Reputation"] ++ a.factionTable.lines
      ++ (a.mostImproved.map ("  most improved: " ++ ·)).toList
      ++ (a.mostDamaged.map ("  most damaged: " ++ ·)).toList ++ [""]

def alignmentLines (a : Analysis) : List String :=
  let share (name : String) (get : Alignment → Int) :=
    name ++ " " ++ toString (get a.transcript.initial.alignment) ++ " -> "
      ++ toString (get a.transcript.final.alignment)
  ["  Alignment",
    "  " ++ share "good" (·.good) ++ ", " ++ share "neutral" (·.neutral) ++ ", "
      ++ share "evil" (·.evil) ++ " (dominant: "
      ++ a.transcript.final.alignment.dominant.heading ++ ")",
    ""]

def kindTable (a : Analysis) : Table :=
  { header := ["Kind", "Count"]
    rows := a.timeline.histogram.map fun (kind, n) => [kind.name, toString n] }

def criticalLines (a : Analysis) : List String :=
  if a.timeline.critical.isEmpty then []
  else
    ["", "  Critical Events"]
      ++ a.timeline.critical.map fun e => "  " ++ e.timeMark ++ " " ++ e.description

def lines (a : Analysis) : List String :=
  let t := a.transcript
  ["  Analysis " ++ t.id.display,
    "  " ++ toString t.completed ++ "/" ++ toString t.attempted ++ " quests completed ("
      ++ Transcript.percent t.successRate ++ "), " ++ toString t.failed ++ " failed",
    "  " ++ toString t.seconds ++ "s simulated, " ++ toString t.experienceGained
      ++ " experience, " ++ toString t.events.length ++ " events",
    ""] ++ a.reputationLines ++ a.alignmentLines ++ ["  Events"] ++ a.kindTable.lines
    ++ a.criticalLines

end Analysis

namespace Command

variable {m : Type → Type} [Monad m] [Surroundings m]

def readId (text : String) : ExceptT CommandFailure m Uuid := do
  match Uuid.read? text with
  | some id => return id
  | none => throw (.identifier text)

/-- Compares the given transcripts, or all of the folder where none are given. All identifiers are
read before any transcript is. -/
def runCompare (folder : String) (ids : List String) (asJson : Bool) :
    ExceptT CommandFailure m Response := do
  CommandFailure.ofArchive (Archive.openAt folder)
  let ids ← if ids.isEmpty then CommandFailure.ofArchive (Archive.listAt folder)
    else ids.mapM readId
  let ts ← CommandFailure.ofArchive (ids.mapM (Archive.loadAt folder))
  let c := Comparison.ofTranscripts ts
  return if asJson then .ofJson c.toJson else .ofLines c.lines

def runAnalyze (folder id : String) (asJson : Bool) : ExceptT CommandFailure m Response := do
  CommandFailure.ofArchive (Archive.openAt folder)
  let t ← CommandFailure.ofArchive (Archive.loadAt folder (← readId id))
  let a := Analysis.ofTranscript t
  return if asJson then .ofJson a.toJson else .ofLines a.lines

end Command

end Storyline
