import Storyline.Graph.Loop
import Storyline.Graph.Reach
import Storyline.Validation.Report

/-! Checks that look at how records hang together. -/
namespace Storyline.Validation

def orphanIssue (n : Node) : Issue :=
  { kind := .orphan
    node := some n.id
    message := n.kind.phrase ++ " \"" ++ n.label ++ "\" is not connected to anything"
    severity := .warning
    suggestions :=
      ["link this " ++ n.kind.phrase ++ " into the story", "remove it if it is no longer needed"] }

def orphanIssues (g : Graph) : List Issue :=
  (g.nodes.toList.filter Node.isOrphan).map orphanIssue

def unreachableIssue (n : Node) : Issue :=
  { kind := .unreachable
    node := some n.id
    message := n.kind.phrase ++ " \"" ++ n.label ++ "\" cannot be reached from any story arc"
    severity := .error
    suggestions :=
      ["attach it to a story arc", "make it the outcome or prerequisite of a reachable quest"] }

def unreachableIssues (g : Graph) : List Issue :=
  let reached := g.reachable
  (g.numbered.filter fun (i, n) => !reached.getD i false && !n.isOrphan).map fun (_, n) =>
    unreachableIssue n

/-- An error for a quest that points at prerequisite quests when no prerequisite edge enters it. -/
def brokenChainIssues (g : Graph) (node : Nat) (q : Quest) : List Issue :=
  let declared := q.prerequisiteQuests.length
  let wired := (g.edgesTo node).countP (·.kind = .prerequisite)
  if declared = 0 ∨ 0 < wired then []
  else
    [{ kind := .brokenChain
       node := some q.id
       message :=
        "quest \"" ++ q.title ++ "\" declares " ++ toString declared
          ++ " prerequisite(s) but none are linked in the graph"
       severity := .error
       suggestions :=
        ["check that the prerequisite quests exist in this project",
          "remove prerequisites that no longer apply"] }]

def missingPrerequisiteIssue (q : Quest) (required : RecordId) : Issue :=
  { kind := .missingPrerequisites
    node := some q.id
    message := "quest \"" ++ q.title ++ "\" requires quest " ++ required ++ ", which does not exist"
    severity := .error
    suggestions := ["create quest " ++ required ++ " or drop the prerequisite"] }

def missingPrerequisiteIssues (g : Graph) (q : Quest) : List Issue :=
  (q.prerequisiteQuests.filter fun id => (g.findKind? id .quest).isNone).map
    (missingPrerequisiteIssue q)

def firstPerTarget (seen : List Nat) : List (Nat × Nat) → List (Nat × Nat)
  | [] => []
  | (source, target) :: rest =>
    if seen.contains target then firstPerTarget seen rest
    else (source, target) :: firstPerTarget (target :: seen) rest

def loopIssue? (g : Graph) (source target : Nat) : Option Issue :=
  g.nodes[target]?.map fun n =>
    { kind := .circularDependency
      node := some n.id
      edge := ((g.edgesFrom source).find? (·.target = target)).map (·.id)
      message :=
        n.kind.phrase ++ " \"" ++ n.label ++ "\" is part of a dependency loop (looped back from "
          ++ g.idOf source ++ ")"
      severity := .error
      suggestions := ["remove one of the outcome or prerequisite links in the loop"] }

def loopIssues (g : Graph) : List Issue :=
  (firstPerTarget [] g.backEdges).filterMap fun (source, target) => loopIssue? g source target

end Storyline.Validation
