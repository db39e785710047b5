import Storyline.CommandLine.Response
import Storyline.CommandLine.Table

/-! The commands that check content: a whole project, one of its quests, and the status alone. -/
namespace Storyline

namespace Issue

def lines (i : Issue) : List String :=
  let place := match i.node with
    | some id => " " ++ id ++ ":"
    | none => ""
  ("  " ++ i.severity.name ++ " [" ++ i.kind.name ++ "]" ++ place ++ " " ++ i.message)
    :: i.suggestions.map ("    hint: " ++ ·)

end Issue

namespace ValidationReport

def issueLines (r : ValidationReport) : List String := r.issues.flatMap Issue.lines

def verdict (r : ValidationReport) : String :=
  if !r.isValid then "invalid"
  else if r.exportReady then "valid, export ready"
  else "valid, not export ready"

def verdictLines (r : ValidationReport) : List String :=
  ["", "  " ++ r.verdict ++ " " ++ toString r.errors.length ++ " error(s), "
    ++ toString r.warnings.length ++ " warning(s)"]

def kindTable (r : ValidationReport) : Table :=
  { header := ["Issue", "Count"]
    rows := r.summary.byKind.map fun (kind, n) => [kind.name, toString n] }

def kindLines (r : ValidationReport) : List String :=
  if r.summary.byKind.isEmpty then [] else "" :: r.kindTable.lines

def conclude (r : ValidationReport) (response : Response) : Response :=
  if r.isValid then response else response.fail (.invalid r.errors.length)

def respond (r : ValidationReport) (asJson : Bool) (lines : List String) : Response :=
  r.conclude (if asJson then .ofJson r.toJson else .ofLines (lines ++ r.verdictLines))

def statusTable (r : ValidationReport) (time : Timestamp) : Table :=
  let answer (b : Bool) := if b then "yes" else "no"
  { header := ["Check", "Value"]
    rows := [
      ["Valid", answer r.isValid],
      ["Export ready", answer r.exportReady],
      ["Errors", toString r.errors.length],
      ["Warnings", toString r.warnings.length],
      ["Last validated", time.displayPlain]] }

def statusJson (r : ValidationReport) (time : Timestamp) : Json :=
  .object (r.statusFields ++ [("lastValidated", .string time.display)])

end ValidationReport

namespace Command

variable {m : Type → Type} [Monad m] [Surroundings m]

/-- The name of a project; one without a name goes by the path of its file. -/
def projectHeading (path : String) (p : Project) (r : ValidationReport) : List String :=
  let name := if p.name = "" then path else p.name
  let s := r.summary
  ["", "  " ++ name ++ " (" ++ toString s.totalNodes ++ " nodes, " ++ toString s.totalEdges
      ++ " edges)",
    "  " ++ toString s.storyArcs ++ " story arcs, " ++ toString s.quests ++ " quests, "
      ++ toString s.dialogues ++ " dialogues",
    ""]

def runValidate (path : String) (asJson : Bool) : ExceptT CommandFailure m Response := do
  let p ← CommandFailure.readProject path
  let r := p.validate
  return r.respond asJson (projectHeading path p r ++ r.issueLines ++ r.kindLines)

def runQuest (path : String) (id : RecordId) (asJson : Bool) :
    ExceptT CommandFailure m Response := do
  let p ← CommandFailure.readProject path
  match (Graph.ofProject p).validateQuest id with
  | .error e => throw (.lookup e)
  | .ok r =>
    let title := match p.quest id with
      | .ok q => q.title
      | .error _ => id
    let heading :=
      ["", "  " ++ title ++ " (" ++ id ++ ", " ++ toString r.summary.totalEdges ++ " edges)", ""]
    return r.respond asJson (heading ++ r.issueLines)

/-- The status of a project is shown also where its content is not valid. -/
def runStatus (path : String) (asJson : Bool) : ExceptT CommandFailure m Response := do
  let p ← CommandFailure.readProject path
  let time ← Surroundings.now (m := m)
  let r := p.validate
  return if asJson then .ofJson (r.statusJson time) else .ofLines (r.statusTable time).lines

end Command

end Storyline
