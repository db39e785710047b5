import Storyline.Content.Project
import Storyline.Sorted.Set

/-!
The narrative graph. Nodes and edges are numbered in the order in which they are added and refer to
each other by number. A node knows its neighbours; an identifier leads to the first node that has it.
-/
namespace Storyline

inductive NodeKind where
  | storyArc
  | quest
  | dialogue
  deriving DecidableEq

namespace NodeKind

def name : NodeKind → String
  | storyArc => "story_arc"
  | quest => "quest"
  | dialogue => "dialogue"

def phrase : NodeKind → String
  | storyArc => "story arc"
  | quest => "quest"
  | dialogue => "dialogue"

end NodeKind

inductive Entry where
  | storyArc (arc : StoryArc)
  | quest (quest : Quest)
  | dialogue (dialogue : Dialogue)

namespace Entry

def kind : Entry → NodeKind
  | storyArc _ => .storyArc
  | quest _ => .quest
  | dialogue _ => .dialogue

def id : Entry → RecordId
  | storyArc a => a.id
  | quest q => q.id
  | dialogue d => d.id

def label : Entry → String
  | storyArc a => a.title
  | quest q => q.title
  | dialogue d => d.title

def quest? : Entry → Option Quest
  | quest q => some q
  | _ => none

end Entry

structure Node where
  entry : Entry
  incoming : SortedSet Nat := ∅
  outgoing : SortedSet Nat := ∅

namespace Node

def id (n : Node) : RecordId := n.entry.id

def kind (n : Node) : NodeKind := n.entry.kind

def label (n : Node) : String := n.entry.label

def isOrphan (n : Node) : Bool := n.incoming.isEmpty && n.outgoing.isEmpty

end Node

inductive EdgeKind where
  | belongsTo
  | prerequisite
  | outcome
  deriving DecidableEq

def EdgeKind.name : EdgeKind → String
  | belongsTo => "belongs_to"
  | prerequisite => "prerequisite"
  | outcome => "outcome"

inductive EdgePayload where
  | condition (condition : AuthoredCondition)
  | outcome (outcome : Outcome)

structure Edge where
  id : String
  source : Nat
  target : Nat
  kind : EdgeKind
  payload : Option EdgePayload

/-- What an edge is made from, before it has an identifier. -/
structure Link where
  source : Nat
  target : Nat
  kind : EdgeKind
  payload : Option EdgePayload := none

structure Graph where
  nodes : Array Node
  edges : Array Edge
  /-- The first node of each identifier. -/
  firstWithId : SortedMap RecordId Nat
  /-- For each node the numbers of the edges that leave it. -/
  leaving : Array (List Nat)
  /-- For each node the numbers of the edges that enter it. -/
  entering : Array (List Nat)

namespace Graph

def empty : Graph := ⟨#[], #[], ∅, #[], #[]⟩

instance : EmptyCollection Graph := ⟨empty⟩

def addNode (g : Graph) (e : Entry) : Graph :=
  { g with
    nodes := g.nodes.push { entry := e }
    firstWithId :=
      if g.firstWithId.contains e.id then g.firstWithId
      else g.firstWithId.insert e.id g.nodes.size
    leaving := g.leaving.push []
    entering := g.entering.push [] }

def idOf (g : Graph) (i : Nat) : RecordId := (g.nodes[i]?.map Node.id).getD ""

/-- The identifier of an edge: its kind, its ends and its number. -/
def edgeId (g : Graph) (l : Link) : String :=
  l.kind.name ++ ":" ++ g.idOf l.source ++ "->" ++ g.idOf l.target ++ "#" ++ toString g.edges.size

def addEdge (g : Graph) (l : Link) : Graph :=
  { g with
    nodes :=
      (g.nodes.modify l.source fun n => { n with outgoing := n.outgoing.insert l.target }).modify
        l.target fun n => { n with incoming := n.incoming.insert l.source }
    edges := g.edges.push ⟨g.edgeId l, l.source, l.target, l.kind, l.payload⟩
    leaving := g.leaving.modify l.source (· ++ [g.edges.size])
    entering := g.entering.modify l.target (· ++ [g.edges.size]) }

def find? (g : Graph) (id : RecordId) : Option Nat := g.firstWithId.get? id

def contains (g : Graph) (id : RecordId) : Bool := g.firstWithId.contains id

/-- The first node with that identifier, provided that it is of the kind. -/
def findKind? (g : Graph) (id : RecordId) (kind : NodeKind) : Option Nat :=
  (g.find? id).filter fun i => g.nodes[i]?.any (·.kind = kind)

def children (g : Graph) (i : Nat) : List Nat :=
  (g.nodes[i]?.map (·.outgoing.elements)).getD []

def edgesAt (g : Graph) (numbers : Option (List Nat)) : List Edge :=
  (numbers.getD []).filterMap (g.edges[·]?)

def edgesFrom (g : Graph) (i : Nat) : List Edge := g.edgesAt g.leaving[i]?

def edgesTo (g : Graph) (i : Nat) : List Edge := g.edgesAt g.entering[i]?

def numbered (g : Graph) : List (Nat × Node) := g.nodes.toList.zipIdx.map fun (n, i) => (i, n)

def quests (g : Graph) : List (Nat × Quest) :=
  g.numbered.filterMap fun (i, n) => n.entry.quest?.map (i, ·)

/-- The story arcs that nothing leads to: the entry points of the story. -/
def roots (g : Graph) : List Nat :=
  (g.numbered.filter fun (_, n) => n.kind = .storyArc && n.incoming.isEmpty).map (·.1)

def countKind (g : Graph) (kind : NodeKind) : Nat := g.nodes.toList.countP (·.kind = kind)

end Graph

end Storyline
