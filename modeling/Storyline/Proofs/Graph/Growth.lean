import Mathlib.Data.List.Basic
import Storyline.Graph.Basic

/-!
Graphs that grow from the empty one. Such a graph keeps its edges in several places: in the list of
edges, in the neighbours that each node knows, and in the numbers of the edges at each node. The
main statement is that these agree with each other, whatever was added in whatever order.
-/
namespace Storyline.Graph

/-- The graphs that additions lead to; an edge is added between nodes that are there. -/
inductive Grown : Graph → Prop where
  | empty : Grown empty
  | addNode {g : Graph} (e : Entry) : Grown g → Grown (g.addNode e)
  | addEdge {g : Graph} (l : Link) : Grown g → l.source < g.nodes.size →
      l.target < g.nodes.size → Grown (g.addEdge l)

def entries (g : Graph) : List Entry := g.nodes.toList.map (·.entry)

def parents (g : Graph) (i : Nat) : List Nat :=
  (g.nodes[i]?.map (·.incoming.elements)).getD []

def LeadsTo (g : Graph) (i j : Nat) : Prop := j ∈ g.children i

@[simp] theorem length_entries (g : Graph) : g.entries.length = g.nodes.size := by
  simp [entries]

theorem getElem?_entries (g : Graph) (i : Nat) :
    g.entries[i]? = g.nodes[i]?.map (·.entry) := by
  simp [entries]

theorem lt_of_getElem?_entries {g : Graph} {i : Nat} {e : Entry}
    (here : g.entries[i]? = some e) : i < g.nodes.size := by
  rw [← length_entries]
  exact (List.getElem?_eq_some_iff.1 here).1

theorem lt_of_leadsTo {g : Graph} {i j : Nat} (h : g.LeadsTo i j) : i < g.nodes.size := by
  by_cases small : i < g.nodes.size
  · exact small
  · simp [LeadsTo, children, small] at h

/-! The nodes by their numbers. -/

theorem mem_numbered_iff {g : Graph} {i : Nat} {n : Node} :
    (i, n) ∈ g.numbered ↔ g.nodes[i]? = some n := by
  simp [numbered, List.mem_zipIdx_iff_getElem?]

theorem mem_quests_iff {g : Graph} {i : Nat} {q : Quest} :
    (i, q) ∈ g.quests ↔ g.entries[i]? = some (.quest q) := by
  simp only [quests, List.mem_filterMap, Option.map_eq_some_iff, Prod.mk.injEq, Prod.exists,
    mem_numbered_iff, getElem?_entries]
  constructor
  · rintro ⟨_, n, here, _, isQuest, rfl, rfl⟩
    refine ⟨n, here, ?_⟩
    cases entry : n.entry <;> simp [Entry.quest?, entry] at isQuest
    exact congrArg Entry.quest isQuest
  · rintro ⟨n, here, entry⟩
    exact ⟨i, n, here, q, by rw [entry]; rfl, rfl, rfl⟩

theorem map_snd_numbered (g : Graph) : g.numbered.map (·.2) = g.nodes.toList := by
  simp [numbered, Function.comp_def]

theorem map_snd_quests (g : Graph) :
    g.quests.map (·.2) = g.entries.filterMap Entry.quest? := by
  rw [quests, entries, ← map_snd_numbered, List.map_filterMap, List.filterMap_map,
    List.filterMap_map]
  simp [Function.comp_def]

theorem mem_roots_iff {g : Graph} {i : Nat} :
    i ∈ g.roots ↔ ∃ n, g.nodes[i]? = some n ∧ n.kind = .storyArc ∧ n.incoming.isEmpty = true := by
  simp [roots, mem_numbered_iff]

theorem findKind?_quest_eq_some_iff {g : Graph} {id : RecordId} {i : Nat} :
    g.findKind? id .quest = some i ↔
      g.find? id = some i ∧ ∃ q, g.entries[i]? = some (.quest q) := by
  rw [findKind?, Option.filter_eq_some_iff]
  refine and_congr_right fun _ => ?_
  rw [getElem?_entries]
  cases g.nodes[i]? with
  | none => simp
  | some n => cases entry : n.entry <;> simp [Node.kind, Entry.kind, entry]

/-! What one addition does to each part. -/

section Additions

variable (g : Graph) (e : Entry) (l : Link) (i j : Nat)

@[simp] theorem size_nodes_addNode : (g.addNode e).nodes.size = g.nodes.size + 1 := by
  simp [addNode]

@[simp] theorem size_nodes_addEdge : (g.addEdge l).nodes.size = g.nodes.size := by
  simp [addEdge]

@[simp] theorem edges_addNode : (g.addNode e).edges = g.edges := rfl

theorem edges_addEdge :
    (g.addEdge l).edges = g.edges.push ⟨g.edgeId l, l.source, l.target, l.kind, l.payload⟩ := rfl

@[simp] theorem entries_addNode : (g.addNode e).entries = g.entries ++ [e] := by
  simp [entries, addNode]

@[simp] theorem entries_addEdge : (g.addEdge l).entries = g.entries := by
  apply List.ext_getElem?
  intro k
  simp only [getElem?_entries, addEdge, Array.getElem?_modify]
  cases g.nodes[k]? with
  | none => simp
  | some n => by_cases l.target = k <;> by_cases l.source = k <;> simp [*]

@[simp] theorem children_addNode : (g.addNode e).children i = g.children i := by
  simp only [children, addNode, Array.getElem?_push]
  by_cases new : i = g.nodes.size
  · subst new
    simp [SortedSet.empty, EmptyCollection.emptyCollection]
  · simp [new]

@[simp] theorem parents_addNode : (g.addNode e).parents i = g.parents i := by
  simp only [parents, addNode, Array.getElem?_push]
  by_cases new : i = g.nodes.size
  · subst new
    simp [SortedSet.empty, EmptyCollection.emptyCollection]
  · simp [new]

variable {g l}

theorem mem_children_addEdge (inside : l.source < g.nodes.size) :
    j ∈ (g.addEdge l).children i ↔ j ∈ g.children i ∨ l.source = i ∧ l.target = j := by
  simp only [children, addEdge, Array.getElem?_modify]
  by_cases from_i : l.source = i
  · subst from_i
    by_cases into_i : l.target = l.source <;>
      simp [into_i, inside, or_comm, eq_comm]
  · by_cases into_i : l.target = i <;> simp [from_i, into_i, Function.comp_def]

theorem mem_parents_addEdge (inside : l.target < g.nodes.size) :
    j ∈ (g.addEdge l).parents i ↔ j ∈ g.parents i ∨ l.target = i ∧ l.source = j := by
  simp only [parents, addEdge, Array.getElem?_modify]
  by_cases into_i : l.target = i
  · subst into_i
    by_cases from_i : l.source = l.target <;>
      simp [from_i, inside, or_comm, eq_comm]
  · by_cases from_i : l.source = i <;> simp [from_i, into_i, Function.comp_def]

end Additions

structure Indexes (table : Array (List Nat)) (endOf : Edge → Nat) (edges : Array Edge) : Prop where
  stored : ∀ i : Nat, ∀ k ∈ (table[i]?).getD [], k < edges.size
  listed : ∀ i : Nat, ((table[i]?).getD []).filterMap (fun k => edges[k]?) =
    edges.toList.filter (endOf · = i)

namespace Indexes

variable {table : Array (List Nat)} {endOf : Edge → Nat} {edges : Array Edge}

theorem push_nil (h : Indexes table endOf edges) : Indexes (table.push []) endOf edges := by
  have same : ∀ i : Nat, ((table.push [])[i]?).getD [] = (table[i]?).getD [] := by
    intro i
    by_cases new : i = table.size <;> simp [Array.getElem?_push, new]
  constructor
  · simpa only [same] using h.stored
  · simpa only [same] using h.listed

theorem push_edge (h : Indexes table endOf edges) {e : Edge} (inside : endOf e < table.size) :
    Indexes (table.modify (endOf e) (· ++ [edges.size])) endOf (edges.push e) := by
  have grown : ∀ i : Nat, ((table.modify (endOf e) (· ++ [edges.size]))[i]?).getD [] =
      (table[i]?).getD [] ++ if endOf e = i then [edges.size] else [] := by
    intro i
    rw [Array.getElem?_modify]
    by_cases here : endOf e = i
    · subst here
      simp [inside]
    · simp [here]
  constructor
  · intro i k hk
    rw [grown] at hk
    rw [Array.size_push]
    rcases List.mem_append.1 hk with hk | hk
    · exact Nat.lt_succ_of_lt (h.stored i k hk)
    · have last : k = edges.size := by
        split at hk <;> simp at hk
        exact hk
      omega
  · intro i
    have old : ((table[i]?).getD []).filterMap (fun k => (edges.push e)[k]?) =
        ((table[i]?).getD []).filterMap (fun k => edges[k]?) := by
      apply List.filterMap_congr
      intro k hk
      have below := h.stored i k hk
      rw [Array.getElem?_push_lt below, Array.getElem?_eq_getElem below]
    rw [grown, List.filterMap_append, old, h.listed]
    by_cases here : endOf e = i <;> simp [here]

end Indexes

structure Coherent (g : Graph) : Prop where
  size_leaving : g.leaving.size = g.nodes.size
  size_entering : g.entering.size = g.nodes.size
  leaving : Indexes g.leaving Edge.source g.edges
  entering : Indexes g.entering Edge.target g.edges
  ends_inside : ∀ e ∈ g.edges, e.source < g.nodes.size ∧ e.target < g.nodes.size
  mem_children_iff : ∀ i j, j ∈ g.children i ↔ ∃ e ∈ g.edges, e.source = i ∧ e.target = j
  mem_parents_iff : ∀ i j, j ∈ g.parents i ↔ ∃ e ∈ g.edges, e.target = i ∧ e.source = j
  find?_eq : ∀ id, g.find? id = g.entries.findIdx? (·.id = id)

namespace Coherent

theorem empty : Coherent Graph.empty where
  size_leaving := rfl
  size_entering := rfl
  leaving := ⟨by simp [Graph.empty], by simp [Graph.empty]⟩
  entering := ⟨by simp [Graph.empty], by simp [Graph.empty]⟩
  ends_inside := by simp [Graph.empty]
  mem_children_iff := by simp [Graph.empty, children]
  mem_parents_iff := by simp [Graph.empty, parents]
  find?_eq := fun _ => rfl

variable {g : Graph}

theorem lt_of_leadsTo (h : g.Coherent) {u v : Nat} (leads : g.LeadsTo u v) :
    v < g.nodes.size := by
  obtain ⟨e, he, _, target⟩ := (h.mem_children_iff u v).1 leads
  exact target ▸ (h.ends_inside e he).2

theorem exists_quest_of_findKind? (h : g.Coherent) {id : RecordId} {i : Nat}
    (found : g.findKind? id .quest = some i) :
    ∃ q, g.entries[i]? = some (.quest q) ∧ q.id = id := by
  obtain ⟨first, q, here⟩ := findKind?_quest_eq_some_iff.1 found
  rw [h.find?_eq] at first
  obtain ⟨inside, same, _⟩ := List.findIdx?_eq_some_iff_getElem.1 first
  refine ⟨q, here, ?_⟩
  rw [List.getElem?_eq_getElem inside, Option.some.injEq] at here
  rw [here] at same
  exact of_decide_eq_true same

theorem edgesFrom_eq (h : g.Coherent) (i : Nat) :
    g.edgesFrom i = g.edges.toList.filter (·.source = i) := h.leaving.listed i

theorem edgesTo_eq (h : g.Coherent) (i : Nat) :
    g.edgesTo i = g.edges.toList.filter (·.target = i) := h.entering.listed i

theorem find?_addNode (h : g.Coherent) (e : Entry) (id : RecordId) :
    (g.addNode e).find? id = (g.addNode e).entries.findIdx? (·.id = id) := by
  have known : g.firstWithId.contains e.id = (g.entries.findIdx? (·.id = e.id)).isSome := by
    rw [← h.find?_eq]
    rfl
  have before : g.firstWithId.get? id = g.entries.findIdx? (·.id = id) := h.find?_eq id
  rw [entries_addNode, List.findIdx?_append, ← before]
  by_cases same : e.id = id
  · subst same
    cases first : g.entries.findIdx? (·.id = e.id) with
    | some i => simp [find?, Graph.addNode, known, before, first]
    | none => simp [find?, Graph.addNode, known, before, first]
  · have other : compare id e.id ≠ .eq := fun eq => same (Std.LawfulEqCmp.eq_of_compare eq).symm
    by_cases old : g.firstWithId.contains e.id <;>
      simp [find?, Graph.addNode, old, other, same]

theorem addNode (h : g.Coherent) (e : Entry) : (g.addNode e).Coherent where
  size_leaving := by simp [Graph.addNode, h.size_leaving]
  size_entering := by simp [Graph.addNode, h.size_entering]
  leaving := h.leaving.push_nil
  entering := h.entering.push_nil
  ends_inside := by
    intro edge hedge
    have inside := h.ends_inside edge hedge
    rw [size_nodes_addNode]
    omega
  mem_children_iff := by simpa using h.mem_children_iff
  mem_parents_iff := by simpa using h.mem_parents_iff
  find?_eq := h.find?_addNode e

theorem addEdge (h : g.Coherent) {l : Link} (source_inside : l.source < g.nodes.size)
    (target_inside : l.target < g.nodes.size) : (g.addEdge l).Coherent where
  size_leaving := by simp [Graph.addEdge, h.size_leaving]
  size_entering := by simp [Graph.addEdge, h.size_entering]
  leaving := h.leaving.push_edge (e := ⟨g.edgeId l, l.source, l.target, l.kind, l.payload⟩)
    (by rw [h.size_leaving]; exact source_inside)
  entering := h.entering.push_edge (e := ⟨g.edgeId l, l.source, l.target, l.kind, l.payload⟩)
    (by rw [h.size_entering]; exact target_inside)
  ends_inside := by
    intro e he
    rw [size_nodes_addEdge]
    rcases Array.mem_push.1 he with he | rfl
    · exact h.ends_inside e he
    · exact ⟨source_inside, target_inside⟩
  mem_children_iff := by
    intro i j
    rw [mem_children_addEdge _ _ source_inside, h.mem_children_iff, edges_addEdge]
    simp only [Array.mem_push, or_and_right, exists_or, exists_eq_left]
  mem_parents_iff := by
    intro i j
    rw [mem_parents_addEdge _ _ target_inside, h.mem_parents_iff, edges_addEdge]
    simp only [Array.mem_push, or_and_right, exists_or, exists_eq_left]
  find?_eq := by
    intro id
    rw [entries_addEdge, ← h.find?_eq]
    rfl

end Coherent

theorem Grown.coherent {g : Graph} (h : g.Grown) : g.Coherent := by
  induction h with
  | empty => exact .empty
  | addNode e _ ih => exact ih.addNode e
  | addEdge l _ source_inside target_inside ih => exact ih.addEdge source_inside target_inside

end Storyline.Graph
