import Storyline.Proofs.Graph.Growth

/-!
The views that a graph gives of its edges and identifiers, through the nodes, through the numbers at
each node and through the index. They agree in every graph that was built up by additions, and what
was added stays: only the neighbours of a node become more.
-/
namespace Storyline

structure Node.Grows (n m : Node) : Prop where
  entry : m.entry = n.entry
  outgoing : ∀ j ∈ n.outgoing.elements, j ∈ m.outgoing.elements
  incoming : ∀ j ∈ n.incoming.elements, j ∈ m.incoming.elements

theorem Node.Grows.refl (n : Node) : n.Grows n := ⟨rfl, fun _ hj => hj, fun _ hj => hj⟩

theorem Node.Grows.trans {n m l : Node} (first : n.Grows m) (second : m.Grows l) : n.Grows l where
  entry := second.entry.trans first.entry
  outgoing j hj := second.outgoing j (first.outgoing j hj)
  incoming j hj := second.incoming j (first.incoming j hj)

theorem Node.Grows.outgoing_insert (j : Nat) (n : Node) :
    n.Grows { n with outgoing := n.outgoing.insert j } where
  entry := rfl
  outgoing _ hk := SortedSet.mem_elements_insert.2 (.inr hk)
  incoming _ hk := hk

theorem Node.Grows.incoming_insert (j : Nat) (n : Node) :
    n.Grows { n with incoming := n.incoming.insert j } where
  entry := rfl
  outgoing _ hk := hk
  incoming _ hk := SortedSet.mem_elements_insert.2 (.inr hk)

namespace Graph

def Lists (table : Array (List Nat)) (endOf : Edge → Nat) (edges : Array Edge) : Prop :=
  ∀ i row, table[i]? = some row → row.Pairwise (· < ·) ∧
    ∀ k, k ∈ row ↔ ∃ e, edges[k]? = some e ∧ endOf e = i

namespace Lists

variable {table : Array (List Nat)} {endOf : Edge → Nat} {edges : Array Edge}

theorem lt_size (h : Lists table endOf edges) {row : List Nat} (hrow : row ∈ table) {k : Nat}
    (hk : k ∈ row) : k < edges.size := by
  obtain ⟨i, here⟩ := Array.mem_iff_getElem?.1 hrow
  obtain ⟨e, there, _⟩ := ((h i row here).2 k).1 hk
  exact (Array.getElem?_eq_some_iff.1 there).1

theorem push_nil (h : Lists table endOf edges) (inside : ∀ e ∈ edges, endOf e < table.size) :
    Lists (table.push []) endOf edges := by
  intro i row here
  by_cases new : i = table.size
  · subst new
    obtain rfl : [] = row := by simpa using here
    refine ⟨.nil, fun k => ⟨fun hk => absurd hk List.not_mem_nil, ?_⟩⟩
    rintro ⟨e, there, ends⟩
    exact absurd (inside e (Array.mem_of_getElem? there)) (by omega)
  · rw [Array.getElem?_push, if_neg new] at here
    exact h i row here

theorem push_edge (h : Lists table endOf edges) (e : Edge) :
    Lists (table.modify (endOf e) (· ++ [edges.size])) endOf (edges.push e) := by
  intro i row here
  rw [Array.getElem?_modify] at here
  -- the new number is greater than those that stand in the row
  have earlier : ∀ row, table[i]? = some row → ∀ k ∈ row, k < edges.size := fun row there k hk =>
    h.lt_size (Array.mem_of_getElem? there) hk
  have member : ∀ row, table[i]? = some row → ∀ k,
      k ∈ row ∨ k = edges.size ∧ endOf e = i ↔ ∃ f, (edges.push e)[k]? = some f ∧ endOf f = i := by
    intro row there k
    rw [(h i row there).2 k, Array.getElem?_push]
    by_cases new : k = edges.size
    · simp [new]
    · simp [new]
  by_cases at_i : endOf e = i
  · rw [if_pos at_i] at here
    obtain ⟨old, there, rfl⟩ := Option.map_eq_some_iff.1 here
    refine ⟨List.pairwise_append.2 ⟨(h i old there).1, List.pairwise_singleton .., ?_⟩, fun k => ?_⟩
    · intro k hk l hl
      rw [List.mem_singleton.1 hl]
      exact earlier old there k hk
    · rw [← member old there k]
      simp [at_i]
  · rw [if_neg at_i] at here
    refine ⟨(h i row here).1, fun k => ?_⟩
    rw [← member row here k]
    simp [at_i]

end Lists

theorem Grown.lists {g : Graph} (grown : g.Grown) :
    Lists g.leaving Edge.source g.edges ∧ Lists g.entering Edge.target g.edges := by
  induction grown with
  | empty =>
    constructor
    · intro i row none
      cases none
    · intro i row none
      cases none
  | @addNode g e grown ih =>
    have coherent := grown.coherent
    refine ⟨ih.1.push_nil fun f hf => ?_, ih.2.push_nil fun f hf => ?_⟩
    · rw [coherent.size_leaving]
      exact (coherent.ends_inside f hf).1
    · rw [coherent.size_entering]
      exact (coherent.ends_inside f hf).2
  | @addEdge g l _ _ _ ih =>
    exact ⟨ih.1.push_edge ⟨g.edgeId l, l.source, l.target, l.kind, l.payload⟩,
      ih.2.push_edge ⟨g.edgeId l, l.source, l.target, l.kind, l.payload⟩⟩

structure Consistent (g : Graph) : Prop where
  one_row_each : g.leaving.size = g.nodes.size ∧ g.entering.size = g.nodes.size
  ends_inside : ∀ e ∈ g.edges, e.source < g.nodes.size ∧ e.target < g.nodes.size
  neighbours_inside : ∀ n ∈ g.nodes, ∀ j, j ∈ n.outgoing.elements ∨ j ∈ n.incoming.elements →
    j < g.nodes.size
  numbers_inside : ∀ row, row ∈ g.leaving ∨ row ∈ g.entering → ∀ k ∈ row, k < g.edges.size
  first_inside : ∀ id i, g.find? id = some i → i < g.nodes.size
  mem_outgoing_iff : ∀ i j, j ∈ g.children i ↔ ∃ e ∈ g.edges, e.source = i ∧ e.target = j
  mem_incoming_iff : ∀ i j, i ∈ g.parents j ↔ ∃ e ∈ g.edges, e.source = i ∧ e.target = j
  leaving : Lists g.leaving Edge.source g.edges
  entering : Lists g.entering Edge.target g.edges
  edgesFrom_eq : ∀ i, g.edgesFrom i = g.edges.toList.filter (·.source = i)
  edgesTo_eq : ∀ i, g.edgesTo i = g.edges.toList.filter (·.target = i)
  find?_eq_some_iff : ∀ id i, g.find? id = some i ↔
    (∃ n, g.nodes[i]? = some n ∧ n.id = id) ∧ ∀ j < i, ∀ n, g.nodes[j]? = some n → n.id ≠ id
  contains_iff : ∀ id, g.contains id = true ↔ ∃ n ∈ g.nodes, n.id = id

namespace Coherent

variable {g : Graph} (h : g.Coherent)

include h

theorem find?_eq_nodes (id : RecordId) :
    g.find? id = g.nodes.toList.findIdx? (·.id = id) := by
  rw [h.find?_eq, entries, List.findIdx?_map]
  rfl

theorem find?_eq_some_iff (id : RecordId) (i : Nat) : g.find? id = some i ↔
    (∃ n, g.nodes[i]? = some n ∧ n.id = id) ∧ ∀ j < i, ∀ n, g.nodes[j]? = some n → n.id ≠ id := by
  rw [h.find?_eq_nodes, List.findIdx?_eq_some_iff_getElem]
  constructor
  · rintro ⟨inside, same, first⟩
    refine ⟨⟨g.nodes[i], Array.getElem?_eq_getElem inside, by simpa using same⟩, ?_⟩
    intro j early n here
    obtain ⟨small, rfl⟩ := Array.getElem?_eq_some_iff.1 here
    simpa using first j early
  · rintro ⟨⟨n, here, same⟩, first⟩
    obtain ⟨inside, rfl⟩ := Array.getElem?_eq_some_iff.1 here
    refine ⟨inside, by simpa using same, ?_⟩
    intro j early
    have small : j < g.nodes.size := Nat.lt_trans early inside
    simpa using first j early _ (Array.getElem?_eq_getElem small)

theorem contains_iff (id : RecordId) : g.contains id = true ↔ ∃ n ∈ g.nodes, n.id = id := by
  have known : g.contains id = (g.find? id).isSome := rfl
  rw [known, h.find?_eq_nodes, List.findIdx?_isSome, List.any_eq_true]
  simp only [Array.mem_toList_iff, decide_eq_true_eq]

theorem neighbours_inside {n : Node} (hn : n ∈ g.nodes) {j : Nat}
    (near : j ∈ n.outgoing.elements ∨ j ∈ n.incoming.elements) : j < g.nodes.size := by
  obtain ⟨i, here⟩ := Array.mem_iff_getElem?.1 hn
  rcases near with after | before
  · have leads : j ∈ g.children i := by simpa [children, here] using after
    obtain ⟨e, he, _, rfl⟩ := (h.mem_children_iff i j).1 leads
    exact (h.ends_inside e he).2
  · have enters : j ∈ g.parents i := by simpa [parents, here] using before
    obtain ⟨e, he, _, rfl⟩ := (h.mem_parents_iff i j).1 enters
    exact (h.ends_inside e he).1

end Coherent

theorem Grown.consistent {g : Graph} (grown : g.Grown) : g.Consistent := by
  have coherent := grown.coherent
  obtain ⟨leaving, entering⟩ := grown.lists
  exact {
    one_row_each := ⟨coherent.size_leaving, coherent.size_entering⟩
    ends_inside := coherent.ends_inside
    neighbours_inside := fun n hn j near => coherent.neighbours_inside hn near
    numbers_inside := fun row hrow k hk =>
      hrow.elim (fun leaves => leaving.lt_size leaves hk) fun enters => entering.lt_size enters hk
    first_inside := by
      intro id i found
      obtain ⟨⟨n, here, _⟩, _⟩ := (coherent.find?_eq_some_iff id i).1 found
      exact (Array.getElem?_eq_some_iff.1 here).1
    mem_outgoing_iff := coherent.mem_children_iff
    mem_incoming_iff := by
      intro i j
      rw [coherent.mem_parents_iff]
      simp only [and_comm]
    leaving
    entering
    edgesFrom_eq := coherent.edgesFrom_eq
    edgesTo_eq := coherent.edgesTo_eq
    find?_eq_some_iff := coherent.find?_eq_some_iff
    contains_iff := coherent.contains_iff }

/-! What stays when more is added. -/

inductive GrowsTo (g : Graph) : Graph → Prop where
  | refl : GrowsTo g g
  | addNode {h : Graph} (e : Entry) : GrowsTo g h → GrowsTo g (h.addNode e)
  | addEdge {h : Graph} (l : Link) : GrowsTo g h → l.source < h.nodes.size →
      l.target < h.nodes.size → GrowsTo g (h.addEdge l)

/-- What the first graph holds stands at the same place in the second. -/
structure StaysIn (g h : Graph) : Prop where
  node : ∀ (i : Nat) n, g.nodes[i]? = some n → ∃ m, h.nodes[i]? = some m ∧ n.Grows m
  edge : ∀ (k : Nat) e, g.edges[k]? = some e → h.edges[k]? = some e

theorem exists_grows_modify {nodes : Array Node} {f : Node → Node}
    (grows : ∀ n : Node, n.Grows (f n)) (k : Nat) {i : Nat} {n : Node} (here : nodes[i]? = some n) :
    ∃ m, (nodes.modify k f)[i]? = some m ∧ n.Grows m := by
  rw [Array.getElem?_modify, here]
  split
  · exact ⟨f n, rfl, grows n⟩
  · exact ⟨n, rfl, .refl n⟩

namespace StaysIn

variable {g h k : Graph}

theorem refl (g : Graph) : g.StaysIn g := ⟨fun _ n here => ⟨n, here, .refl n⟩, fun _ _ here => here⟩

theorem trans (first : g.StaysIn h) (second : h.StaysIn k) : g.StaysIn k where
  node i n here := by
    obtain ⟨m, there, grows⟩ := first.node i n here
    obtain ⟨l, later, more⟩ := second.node i m there
    exact ⟨l, later, grows.trans more⟩
  edge i e here := second.edge i e (first.edge i e here)

theorem addNode (g : Graph) (e : Entry) : g.StaysIn (g.addNode e) where
  node i n here := by
    have inside := (Array.getElem?_eq_some_iff.1 here).1
    refine ⟨n, ?_, .refl n⟩
    rw [Graph.addNode, Array.getElem?_push_lt inside, ← here, Array.getElem?_eq_getElem inside]
  edge _ _ here := here

theorem addEdge (g : Graph) (l : Link) : g.StaysIn (g.addEdge l) where
  node i n here := by
    obtain ⟨m, there, first⟩ := exists_grows_modify (.outgoing_insert l.target) l.source here
    obtain ⟨k, last, second⟩ := exists_grows_modify (.incoming_insert l.source) l.target there
    exact ⟨k, last, first.trans second⟩
  edge k e here := by
    have inside := (Array.getElem?_eq_some_iff.1 here).1
    rw [edges_addEdge, Array.getElem?_push_lt inside, ← here, Array.getElem?_eq_getElem inside]

end StaysIn

theorem GrowsTo.staysIn {g h : Graph} (grows : g.GrowsTo h) : g.StaysIn h := by
  induction grows with
  | refl => exact .refl g
  | addNode e _ ih => exact ih.trans (.addNode _ e)
  | addEdge l _ _ _ ih => exact ih.trans (.addEdge _ l)

/-- In a graph that was built up by additions, whatever their order, the neighbours of the nodes,
the numbers of the edges at each node, the edges and the index of identifiers agree; an identifier
leads to the first node that has it. Further additions leave all that was added where it is; a node
may only come to know more neighbours. -/
theorem Grown.views_agree {g : Graph} (grown : g.Grown) :
    g.Consistent ∧ ∀ h, g.GrowsTo h → g.StaysIn h :=
  ⟨grown.consistent, fun _ grows => grows.staysIn⟩

/-- Two quests of one identifier, joined twice, the second of which leads to itself. -/
def eddy : Graph :=
  ((((empty.addNode (.quest { id := "pool" })).addNode (.quest { id := "pool" })).addEdge
    { source := 0, target := 1, kind := .outcome }).addEdge
    { source := 0, target := 1, kind := .prerequisite }).addEdge
    { source := 1, target := 1, kind := .outcome }

def upstream : Link := { source := 1, target := 0, kind := .outcome }

theorem eddy_views : eddy.Grown ∧ eddy.children 0 = [1] ∧ eddy.parents 1 = [0, 1] ∧
    (eddy.edgesFrom 0).map (·.kind) = [.outcome, .prerequisite] ∧ eddy.find? "pool" = some 0 ∧
    eddy.Consistent ∧ eddy.StaysIn (eddy.addEdge upstream) := by
  have grown : eddy.Grown :=
    .addEdge _ (.addEdge _ (.addEdge _ (.addNode _ (.addNode _ .empty)) (by decide) (by decide))
      (by decide) (by decide)) (by decide) (by decide)
  obtain ⟨consistent, stays⟩ := grown.views_agree
  exact ⟨grown, by decide, by decide, by decide, by decide, consistent,
    stays _ (.addEdge upstream .refl (by decide) (by decide))⟩

end Graph

end Storyline
