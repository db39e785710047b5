import Storyline.Graph.Wiring
import Storyline.Validation.Connection
import Storyline.Validation.Structure

/-!
Validation of a graph, of a project, of a quest alone and of a quest inside its graph. The checks
run in a fixed order, and each answers with the issues that it found.
-/
namespace Storyline

namespace Validation

def graphIssues (g : Graph) (policy : ValidationPolicy) : List Issue :=
  orphanIssues g ++ unreachableIssues g
    ++ g.quests.flatMap (fun (i, q) => brokenChainIssues g i q)
    ++ loopIssues g
    ++ g.quests.flatMap (fun (_, q) => missingPrerequisiteIssues g q)
    ++ g.nodes.toList.flatMap (fun n => entryConditionIssues n.entry)
    ++ g.quests.flatMap (fun (_, q) => structureIssues policy q)

end Validation

open Validation

def Graph.validate (g : Graph) (policy : ValidationPolicy := {}) : ValidationReport :=
  .ofIssues (graphIssues g policy) (.ofGraph g) policy

def Project.validate (p : Project) : ValidationReport := (Graph.ofProject p).validate

/-- Validates a quest by itself; its references count as edges. -/
def Quest.validate (q : Quest) (policy : ValidationPolicy := {}) : ValidationReport :=
  .ofIssues (structureIssues policy q ++ questConditionIssues q)
    (.ofQuest (q.prerequisiteQuests.length + q.nextQuests.length)) policy

/-- The edges at a node; an edge from the node to itself stands twice. -/
def Graph.edgesAround (g : Graph) (node : Nat) : List Edge := g.edgesTo node ++ g.edgesFrom node

def Graph.validateQuest (g : Graph) (id : RecordId) : Except LookupError ValidationReport :=
  match (g.find? id).bind fun i => g.nodes[i]?.bind fun n => n.entry.quest?.map (i, ·) with
  | none => .error (.quest id)
  | some (i, q) =>
    .ok (.ofIssues
      (structureIssues {} q ++ questConditionIssues q ++ missingPrerequisiteIssues g q
        ++ brokenChainIssues g i q)
      (.ofQuest (g.edgesAround i).length) {})

end Storyline
