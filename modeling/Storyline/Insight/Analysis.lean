import Storyline.Play.Transcript

/-! The analysis of one transcript: headline figures, reputation, alignment and a timeline. -/
namespace Storyline

structure Timeline where
  histogram : List (EventKind × Nat)
  /-- How many events there are in each span of time, by its first second. -/
  spans : SortedMap Nat Nat
  critical : List Event

namespace Timeline

def spanSeconds : Nat := 300

def maxCritical : Nat := 10

def isCritical (e : Event) : Bool :=
  e.tone = .error || e.tone = .success || e.kind = .questComplete

def spanOf (e : Event) : Nat := e.timestamp / spanSeconds * spanSeconds

def count (spans : SortedMap Nat Nat) (e : Event) : SortedMap Nat Nat :=
  spans.insert (spanOf e) (spans.getD (spanOf e) 0 + 1)

def ofEvents (events : List Event) : Timeline :=
  { histogram := (EventKind.all.map fun k => (k, events.countP (·.kind = k))).filter (·.2 ≠ 0)
    spans := events.foldl count ∅
    critical := (events.filter isCritical).take maxCritical }

def toJson (t : Timeline) : Json :=
  .object [
    ("histogram", .object (t.histogram.map fun (k, n) => (k.name, .integer n))),
    ("time_buckets", Json.ofMap (fun (n : Nat) => toString n) (fun (n : Nat) => .integer n) t.spans),
    ("critical_events", .array (t.critical.map Event.toJson))]

end Timeline

structure Analysis where
  transcript : Transcript
  mostImproved : Option String
  mostDamaged : Option String
  timeline : Timeline

namespace Analysis

/-- The entry of the greatest value above zero; of several the last. -/
def greatestGain : List (String × Int) → Option (String × Int)
  | [] => none
  | e :: rest =>
    match greatestGain rest with
    | some best => if e.2 > best.2 then some e else some best
    | none => if 0 < e.2 then some e else none

/-- The entry of the least value below zero; of several the first. -/
def greatestLoss : List (String × Int) → Option (String × Int)
  | [] => none
  | e :: rest =>
    match greatestLoss rest with
    | some worst => if e.2 ≤ worst.2 then some e else some worst
    | none => if e.2 < 0 then some e else none

def ofTranscript (t : Transcript) : Analysis :=
  { transcript := t
    mostImproved := (greatestGain t.reputationChanges.entries).map (·.1)
    mostDamaged := (greatestLoss t.reputationChanges.entries).map (·.1)
    timeline := .ofEvents t.events }

/-- What the alignment came to, whatever the transcript says about it. -/
def alignmentChanges (a : Analysis) : Alignment :=
  a.transcript.final.alignment.diff a.transcript.initial.alignment

def toJson (a : Analysis) : Json :=
  let t := a.transcript
  .object [
    ("simulation_id", .string t.id.display),
    ("basic_stats", .object [
      ("quests_attempted", .integer t.attempted),
      ("quests_completed", .integer t.completed),
      ("quests_failed", .integer t.failed),
      ("success_rate", .real t.successRate),
      ("duration_seconds", .integer t.seconds),
      ("experience_gained", .integer t.experienceGained),
      ("total_events", .integer t.events.length)]),
    ("reputation_analysis", .object [
      ("changes", Json.ofNamedMap .integer t.reputationChanges),
      ("final_standing", Json.ofNamedMap .integer t.final.reputation),
      ("most_improved", Json.ofOptional .string a.mostImproved),
      ("most_damaged", Json.ofOptional .string a.mostDamaged)]),
    ("alignment_analysis", .object [
      ("initial", t.initial.alignment.toJson),
      ("final_alignment", t.final.alignment.toJson),
      ("changes", a.alignmentChanges.toJson),
      ("dominant", .string t.final.alignment.dominant.name)]),
    ("event_timeline", a.timeline.toJson)]

end Analysis

end Storyline
