import Storyline.Graph.Basic

/-!
The graph of a project. Edges run from story arc to quest, from prerequisite to quest, from quest
to the quest that an outcome leads to, and from quest to dialogue. A reference that names no record
of the expected kind gives no edge.
-/
namespace Storyline.Graph

def ofEntries (entries : List Entry) : Graph := entries.foldl addNode empty

def arcLink? (g : Graph) (q : Quest) (node : Nat) : Option Link := do
  let id ← q.storyArc
  let arc ← g.findKind? id .storyArc
  return { source := arc, target := node, kind := .belongsTo }

def prerequisiteLink? (g : Graph) (node : Nat) (c : AuthoredCondition) : Option Link := do
  let id ← c.referencedQuest?
  let quest ← g.findKind? id .quest
  return { source := quest, target := node, kind := .prerequisite, payload := some (.condition c) }

def outcomeLink? (g : Graph) (node : Nat) (o : Outcome) : Option Link := do
  let id ← o.nextQuest
  let quest ← g.findKind? id .quest
  return { source := node, target := quest, kind := .outcome, payload := some (.outcome o) }

def questLinks (g : Graph) (q : Quest) (node : Nat) : List Link :=
  (g.arcLink? q node).toList ++ q.prerequisites.filterMap (g.prerequisiteLink? node)
    ++ q.outcomes.filterMap (g.outcomeLink? node)

def dialogueLink? (g : Graph) (d : Dialogue) (node : Nat) : Option Link := do
  let id ← d.quest
  let quest ← g.findKind? id .quest
  return { source := quest, target := node, kind := .belongsTo }

/-- The edges among records whose nodes stand in the order arcs, quests, dialogues. -/
def links (g : Graph) (arcs : List StoryArc) (quests : List Quest) (dialogues : List Dialogue) :
    List Link :=
  (quests.zipIdx arcs.length).flatMap (fun (q, i) => g.questLinks q i)
    ++ (dialogues.zipIdx (arcs.length + quests.length)).filterMap fun (d, i) => g.dialogueLink? d i

def ofRecords (arcs : List StoryArc) (quests : List Quest) (dialogues : List Dialogue) : Graph :=
  let nodes :=
    ofEntries (arcs.map .storyArc ++ quests.map .quest ++ dialogues.map .dialogue)
  (nodes.links arcs quests dialogues).foldl addEdge nodes

def ofProject (p : Project) : Graph := ofRecords p.storyArcs p.quests p.dialogues

end Storyline.Graph
