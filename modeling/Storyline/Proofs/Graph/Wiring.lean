import Storyline.Graph.Wiring
import Storyline.Proofs.Graph.Growth

/-!
The graph of a project. It is built up by additions, its nodes are the records in order, and its
edges are the links that the references give, in order.
-/
namespace Storyline

def Edge.link (e : Edge) : Link := ⟨e.source, e.target, e.kind, e.payload⟩

namespace Graph

theorem entries_foldl_addNode (g : Graph) (es : List Entry) :
    (es.foldl addNode g).entries = g.entries ++ es := by
  induction es generalizing g with
  | nil => simp
  | cons e es ih =>
    rw [List.foldl_cons, ih, entries_addNode, List.append_assoc, List.singleton_append]

@[simp] theorem entries_ofEntries (es : List Entry) : (ofEntries es).entries = es :=
  entries_foldl_addNode empty es

theorem edges_foldl_addNode (g : Graph) (es : List Entry) :
    (es.foldl addNode g).edges = g.edges := by
  induction es generalizing g with
  | nil => rfl
  | cons e es ih => rw [List.foldl_cons, ih, edges_addNode]

theorem Grown.foldl_addNode {g : Graph} (grown : g.Grown) (es : List Entry) :
    (es.foldl Graph.addNode g).Grown := by
  induction es generalizing g with
  | nil => exact grown
  | cons e es ih => exact ih (grown.addNode e)

theorem grown_ofEntries (es : List Entry) : (ofEntries es).Grown := Grown.empty.foldl_addNode es

@[simp] theorem entries_foldl_addEdge (g : Graph) (ls : List Link) :
    (ls.foldl addEdge g).entries = g.entries := by
  induction ls generalizing g with
  | nil => rfl
  | cons l ls ih => rw [List.foldl_cons, ih, entries_addEdge]

theorem edges_foldl_addEdge (g : Graph) (ls : List Link) :
    (ls.foldl addEdge g).edges.toList.map Edge.link = g.edges.toList.map Edge.link ++ ls := by
  induction ls generalizing g with
  | nil => simp
  | cons l ls ih =>
    rw [List.foldl_cons, ih, edges_addEdge, Array.toList_push, List.map_append, List.append_assoc]
    rfl

def Spans (g : Graph) (l : Link) : Prop := l.source < g.nodes.size ∧ l.target < g.nodes.size

theorem Grown.foldl_addEdge {g : Graph} (grown : g.Grown) {ls : List Link}
    (inside : ∀ l ∈ ls, g.Spans l) : (ls.foldl Graph.addEdge g).Grown := by
  induction ls generalizing g with
  | nil => exact grown
  | cons l ls ih =>
    have first := inside l List.mem_cons_self
    refine ih (grown.addEdge l first.1 first.2) ?_
    intro k hk
    simpa [Spans] using inside k (List.mem_cons_of_mem _ hk)

/-! Identifiers are looked up among the records alone. -/

theorem Coherent.lt_of_findKind? {g : Graph} (coherent : g.Coherent) {id : RecordId}
    {kind : NodeKind} {i : Nat} (found : g.findKind? id kind = some i) : i < g.nodes.size := by
  have first := (Option.filter_eq_some_iff.1 found).1
  rw [coherent.find?_eq] at first
  rw [← length_entries]
  exact (List.findIdx?_eq_some_iff_getElem.1 first).1

theorem Coherent.findKind?_congr {g g' : Graph} (coherent : g.Coherent) (coherent' : g'.Coherent)
    (same : g'.entries = g.entries) (id : RecordId) (kind : NodeKind) :
    g'.findKind? id kind = g.findKind? id kind := by
  have test : ∀ (h : Graph) (i : Nat), h.nodes[i]?.any (·.kind = kind) =
      h.entries[i]?.any (·.kind = kind) := by
    intro h i
    rw [getElem?_entries, Option.any_map]
    rfl
  rw [findKind?, findKind?, coherent.find?_eq, coherent'.find?_eq, same]
  simp only [test, same]

theorem mem_zipIdx_iff_getElem?_append {α β : Type} {f : α → β} (inj : ∀ a b, f a = f b → a = b)
    {b c : List β} (before : ∀ a, f a ∉ b) (after : ∀ a, f a ∉ c) {l : List α} {a : α} {i : Nat} :
    (a, i) ∈ l.zipIdx b.length ↔ (b ++ l.map f ++ c)[i]? = some (f a) := by
  rw [List.mem_zipIdx_iff_le_and_getElem?_sub]
  by_cases early : i < b.length
  · rw [List.append_assoc, List.getElem?_append_left early]
    constructor
    · omega
    · intro here
      exact absurd (List.mem_of_getElem? here) (before a)
  · by_cases late : i < b.length + l.length
    · rw [List.getElem?_append_left (by simpa using late),
        List.getElem?_append_right (Nat.le_of_not_lt early), List.getElem?_map]
      simp only [Nat.le_of_not_lt early, true_and, Option.map_eq_some_iff]
      constructor
      · intro here
        exact ⟨a, here, rfl⟩
      · rintro ⟨c, here, same⟩
        rw [here, inj c a same]
    · rw [List.getElem?_append_right (by simpa using late),
        List.getElem?_eq_none (by omega : l.length ≤ i - b.length)]
      constructor
      · rintro ⟨_, here⟩
        cases here
      · intro here
        exact absurd (List.mem_of_getElem? here) (after a)

/-- The links that the records of a graph give, each by the reference that gives it. -/
inductive Wires (g : Graph) : Link → Prop where
  | arc {q : Quest} {id : RecordId} {i j : Nat} : g.entries[i]? = some (.quest q) →
      q.storyArc = some id → g.findKind? id .storyArc = some j →
      Wires g { source := j, target := i, kind := .belongsTo }
  | prerequisite {q : Quest} {c : AuthoredCondition} {id : RecordId} {i j : Nat} :
      g.entries[i]? = some (.quest q) → c ∈ q.prerequisites → c.referencedQuest? = some id →
      g.findKind? id .quest = some j →
      Wires g
        { source := j, target := i, kind := .prerequisite, payload := some (.condition c) }
  | outcome {q : Quest} {o : Outcome} {id : RecordId} {i j : Nat} :
      g.entries[i]? = some (.quest q) → o ∈ q.outcomes → o.nextQuest = some id →
      g.findKind? id .quest = some j →
      Wires g { source := i, target := j, kind := .outcome, payload := some (.outcome o) }
  | dialogue {d : Dialogue} {id : RecordId} {i j : Nat} : g.entries[i]? = some (.dialogue d) →
      d.quest = some id → g.findKind? id .quest = some j →
      Wires g { source := j, target := i, kind := .belongsTo }

theorem Wires.spans {g : Graph} {l : Link} (coherent : g.Coherent) (wires : g.Wires l) :
    g.Spans l := by
  cases wires with
  | arc here _ found =>
    exact ⟨coherent.lt_of_findKind? found, lt_of_getElem?_entries here⟩
  | prerequisite here _ _ found =>
    exact ⟨coherent.lt_of_findKind? found, lt_of_getElem?_entries here⟩
  | outcome here _ _ found =>
    exact ⟨lt_of_getElem?_entries here, coherent.lt_of_findKind? found⟩
  | dialogue here _ found =>
    exact ⟨coherent.lt_of_findKind? found, lt_of_getElem?_entries here⟩

theorem Wires.congr {g g' : Graph} {l : Link} (coherent : g.Coherent) (coherent' : g'.Coherent)
    (same : g'.entries = g.entries) (wires : g.Wires l) : g'.Wires l := by
  have lookup (id : RecordId) (kind : NodeKind) : g.findKind? id kind = g'.findKind? id kind :=
    (coherent.findKind?_congr coherent' same id kind).symm
  cases wires with
  | arc here names found => exact .arc (same ▸ here) names (lookup _ _ ▸ found)
  | prerequisite here among names found =>
    exact .prerequisite (same ▸ here) among names (lookup _ _ ▸ found)
  | outcome here among names found =>
    exact .outcome (same ▸ here) among names (lookup _ _ ▸ found)
  | dialogue here names found => exact .dialogue (same ▸ here) names (lookup _ _ ▸ found)

/-! The graph of lists of records. -/

section Records

variable (arcs : List StoryArc) (quests : List Quest) (dialogues : List Dialogue)

def recordEntries : List Entry :=
  arcs.map .storyArc ++ quests.map .quest ++ dialogues.map .dialogue

theorem ofRecords_eq : ofRecords arcs quests dialogues =
    ((ofEntries (recordEntries arcs quests dialogues)).links arcs quests dialogues).foldl addEdge
      (ofEntries (recordEntries arcs quests dialogues)) := rfl

@[simp] theorem entries_ofRecords :
    (ofRecords arcs quests dialogues).entries = recordEntries arcs quests dialogues := by
  rw [ofRecords_eq, entries_foldl_addEdge, entries_ofEntries]

theorem edges_ofRecords : (ofRecords arcs quests dialogues).edges.toList.map Edge.link =
    (ofEntries (recordEntries arcs quests dialogues)).links arcs quests dialogues := by
  rw [ofRecords_eq, edges_foldl_addEdge, ofEntries, edges_foldl_addNode]
  rfl

variable {arcs quests dialogues} in
theorem mem_zipIdx_quests_iff {q : Quest} {i : Nat} : (q, i) ∈ quests.zipIdx arcs.length ↔
    (recordEntries arcs quests dialogues)[i]? = some (.quest q) := by
  have part : (q, i) ∈ quests.zipIdx (arcs.map Entry.storyArc).length ↔
      (recordEntries arcs quests dialogues)[i]? = some (.quest q) :=
    mem_zipIdx_iff_getElem?_append (by simp) (by simp) (by simp)
  rwa [List.length_map] at part

variable {arcs quests dialogues} in
theorem mem_zipIdx_dialogues_iff {d : Dialogue} {i : Nat} :
    (d, i) ∈ dialogues.zipIdx (arcs.length + quests.length) ↔
      (recordEntries arcs quests dialogues)[i]? = some (.dialogue d) := by
  have part : (d, i) ∈ dialogues.zipIdx (arcs.map Entry.storyArc ++ quests.map Entry.quest).length ↔
      (recordEntries arcs quests dialogues ++ [])[i]? = some (.dialogue d) :=
    mem_zipIdx_iff_getElem?_append (by simp) (by simp) (by simp)
  rwa [List.length_append, List.length_map, List.length_map, List.append_nil] at part

variable {arcs quests dialogues} in
theorem mem_links_iff {g : Graph} (same : g.entries = recordEntries arcs quests dialogues)
    {l : Link} : l ∈ g.links arcs quests dialogues ↔ g.Wires l := by
  have quest (q : Quest) (i : Nat) : (q, i) ∈ quests.zipIdx arcs.length ↔
      g.entries[i]? = some (.quest q) := same ▸ mem_zipIdx_quests_iff
  have dialogue (d : Dialogue) (i : Nat) :
      (d, i) ∈ dialogues.zipIdx (arcs.length + quests.length) ↔
        g.entries[i]? = some (.dialogue d) := same ▸ mem_zipIdx_dialogues_iff
  simp only [links, List.mem_append, List.mem_flatMap, List.mem_filterMap, Prod.exists, quest,
    dialogue, questLinks, Option.mem_toList, arcLink?, prerequisiteLink?, outcomeLink?,
    dialogueLink?, Option.bind_eq_bind, Option.bind_eq_some_iff, Option.pure_def,
    Option.some.injEq]
  constructor
  · rintro (⟨q, i, here, (⟨id, names, j, found, rfl⟩ | ⟨c, among, id, names, j, found, rfl⟩) |
      ⟨o, among, id, names, j, found, rfl⟩⟩ | ⟨d, i, here, id, names, j, found, rfl⟩)
    · exact .arc here names found
    · exact .prerequisite here among names found
    · exact .outcome here among names found
    · exact .dialogue here names found
  · intro wires
    cases wires with
    | arc here names found =>
      exact .inl ⟨_, _, here, .inl (.inl ⟨_, names, _, found, rfl⟩)⟩
    | prerequisite here among names found =>
      exact .inl ⟨_, _, here, .inl (.inr ⟨_, among, _, names, _, found, rfl⟩)⟩
    | outcome here among names found =>
      exact .inl ⟨_, _, here, .inr ⟨_, among, _, names, _, found, rfl⟩⟩
    | dialogue here names found => exact .inr ⟨_, _, here, _, names, _, found, rfl⟩

theorem grown_ofRecords : (ofRecords arcs quests dialogues).Grown := by
  have grown := grown_ofEntries (recordEntries arcs quests dialogues)
  refine grown.foldl_addEdge ?_
  intro l hl
  exact ((mem_links_iff (entries_ofEntries _)).1 hl).spans grown.coherent

end Records

theorem grown_ofProject (p : Project) : (ofProject p).Grown := grown_ofRecords ..

/-- The edges of the graph of a project are what its records give. -/
theorem mem_links_ofProject_iff {p : Project} {l : Link} :
    l ∈ (ofProject p).edges.toList.map Edge.link ↔ (ofProject p).Wires l := by
  have coherent := (grown_ofProject p).coherent
  have bare := (grown_ofEntries (recordEntries p.storyArcs p.quests p.dialogues)).coherent
  have same : (ofProject p).entries =
      (ofEntries (recordEntries p.storyArcs p.quests p.dialogues)).entries := by
    simp [ofProject]
  rw [ofProject, edges_ofRecords, mem_links_iff (entries_ofEntries _)]
  exact ⟨.congr bare coherent same, .congr coherent bare same.symm⟩

theorem leadsTo_of_prerequisite {p : Project} {q : Quest} {i j : Nat}
    (here : (ofProject p).entries[i]? = some (.quest q)) {c : AuthoredCondition}
    (declared : c ∈ q.prerequisites) {id : RecordId} (points : c.referencedQuest? = some id)
    (found : (ofProject p).findKind? id .quest = some j) : (ofProject p).LeadsTo j i := by
  have linked := mem_links_ofProject_iff.2 (.prerequisite here declared points found)
  obtain ⟨e, he, from_l⟩ := List.mem_map.1 linked
  refine ((grown_ofProject p).coherent.mem_children_iff j i).2 ⟨e, by simpa using he, ?_, ?_⟩
  · exact congrArg Link.source from_l
  · exact congrArg Link.target from_l

end Graph

end Storyline
