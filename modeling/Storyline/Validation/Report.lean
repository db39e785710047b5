import Storyline.Graph.Basic
import Storyline.Validation.Issue

/-!
Validation reports: the issues parted by severity, counts, and two verdicts. Content without errors
is valid; it is ready for export when it also has fewer warnings than the policy allows.
-/
namespace Storyline

structure ValidationPolicy where
  /-- Content with this many warnings is not ready for export. -/
  maxWarnings : Nat := 5
  /-- The allowed deviation of the outcome probabilities of a quest from 100. -/
  tolerance : Float := 0.01

def ValidationPolicy.withTolerance (p : ValidationPolicy) (tolerance : Float) : ValidationPolicy :=
  { p with tolerance := tolerance.abs }

structure ValidationSummary where
  totalNodes : Nat := 0
  totalEdges : Nat := 0
  storyArcs : Nat := 0
  quests : Nat := 0
  dialogues : Nat := 0
  errorCount : Nat := 0
  warningCount : Nat := 0
  byKind : List (IssueKind × Nat) := []

namespace ValidationSummary

def ofGraph (g : Graph) : ValidationSummary :=
  { totalNodes := g.nodes.size, totalEdges := g.edges.size, storyArcs := g.countKind .storyArc,
    quests := g.countKind .quest, dialogues := g.countKind .dialogue }

def ofQuest (edges : Nat) : ValidationSummary :=
  { totalNodes := 1, totalEdges := edges, quests := 1 }

def toJson (s : ValidationSummary) : Json :=
  .object [
    ("totalNodes", .integer s.totalNodes),
    ("totalEdges", .integer s.totalEdges),
    ("storyArcs", .integer s.storyArcs),
    ("quests", .integer s.quests),
    ("dialogues", .integer s.dialogues),
    ("errorCount", .integer s.errorCount),
    ("warningCount", .integer s.warningCount),
    ("byType", .object (s.byKind.map fun (k, n) => (k.name, .integer n)))]

def kindCount? : String × Json → Option (IssueKind × Nat)
  | (name, j) => do
    let kind ← IssueKind.ofName? name
    let n ← j.word?
    return (kind, n)

def kindCounts? : Json → Option (List (IssueKind × Nat))
  | .object fields => fields.mapM kindCount?
  | _ => none

def ofJson? (j : Json) : Option ValidationSummary := do
  let row ← j.row?
    ["totalNodes", "totalEdges", "storyArcs", "quests", "dialogues", "errorCount", "warningCount",
      "byType"]
  return {
    totalNodes := ← row.required "totalNodes" Json.word?
    totalEdges := ← row.required "totalEdges" Json.word?
    storyArcs := ← row.required "storyArcs" Json.word?
    quests := ← row.required "quests" Json.word?
    dialogues := ← row.required "dialogues" Json.word?
    errorCount := ← row.required "errorCount" Json.word?
    warningCount := ← row.required "warningCount" Json.word?
    byKind := ← row.required "byType" kindCounts? }

end ValidationSummary

def countKinds (issues : List Issue) : List (IssueKind × Nat) :=
  (IssueKind.all.map fun k => (k, issues.countP (·.kind = k))).filter (·.2 ≠ 0)

structure ValidationReport where
  isValid : Bool
  exportReady : Bool
  errors : List Issue
  warnings : List Issue
  summary : ValidationSummary

namespace ValidationReport

/-- Parts the issues, each part in the order given, and counts them into the summary. -/
def ofIssues (issues : List Issue) (summary : ValidationSummary) (policy : ValidationPolicy) :
    ValidationReport :=
  let errors := issues.filter Issue.isError
  let warnings := issues.filter fun i => !i.isError
  { isValid := errors.isEmpty
    exportReady := errors.isEmpty && warnings.length < policy.maxWarnings
    errors
    warnings
    summary := { summary with
      errorCount := errors.length
      warningCount := warnings.length
      byKind := countKinds (errors ++ warnings) } }

def issues (r : ValidationReport) : List Issue := r.errors ++ r.warnings

def issuesOf (r : ValidationReport) (kind : IssueKind) : List Issue :=
  r.issues.filter (·.kind = kind)

def toJson (r : ValidationReport) : Json :=
  .object [
    ("isValid", .bool r.isValid),
    ("exportReady", .bool r.exportReady),
    ("errors", .array (r.errors.map Issue.toJson)),
    ("warnings", .array (r.warnings.map Issue.toJson)),
    ("summary", r.summary.toJson)]

def statusFields (r : ValidationReport) : List (String × Json) :=
  [("isValid", .bool r.isValid), ("exportReady", .bool r.exportReady),
    ("errorCount", .integer r.errors.length), ("warningCount", .integer r.warnings.length)]

end ValidationReport

end Storyline
