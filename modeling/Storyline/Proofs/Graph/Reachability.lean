import Mathlib.Logic.Relation
import Storyline.Graph.Reach
import Storyline.Proofs.Graph.Growth

/-!
The breadth-first search for the nodes that entry points lead to. A node that bears a mark is led to
by an entry point, and all nodes after it bear marks unless it still waits in the queue; at the end
the marks stand for reachability exactly.
-/
namespace Storyline.Graph

section Reach

variable (marks : Array Bool) (l : List Nat) (i : Nat)

@[simp] theorem size_reach : (reach marks l).1.size = marks.size := by
  induction l generalizing marks with
  | nil => rfl
  | cons k rest ih =>
    rw [reach]
    split
    · split
      · exact ih marks
      · rw [ih, Array.size_set]
    · exact ih marks

theorem marked_reach_iff : (reach marks l).1[i]? = some true ↔
    marks[i]? = some true ∨ i ∈ l ∧ i < marks.size := by
  induction l generalizing marks with
  | nil => simp [reach]
  | cons k rest ih =>
    rw [reach]
    by_cases inside : k < marks.size
    · rw [dif_pos inside]
      by_cases marked : marks[k] = true
      · rw [if_pos marked, ih]
        by_cases here : i = k
        · subst here
          simp [marked, inside]
        · simp [here]
      · rw [if_neg marked]
        change (reach (marks.set k true inside) rest).1[i]? = some true ↔ _
        rw [ih, Array.getElem?_set, Array.size_set]
        by_cases here : k = i
        · subst here
          simp [inside]
        · simp [here, Ne.symm here]
    · rw [dif_neg inside, ih]
      by_cases here : i = k
      · subst here
        simp [inside]
      · simp [here]

theorem mem_fresh_reach_iff : i ∈ (reach marks l).2 ↔ i ∈ l ∧ marks[i]? = some false := by
  induction l generalizing marks with
  | nil => simp [reach]
  | cons k rest ih =>
    rw [reach]
    by_cases inside : k < marks.size
    · rw [dif_pos inside]
      by_cases marked : marks[k] = true
      · rw [if_pos marked, ih]
        by_cases here : i = k
        · subst here
          simp [marked, inside]
        · simp [here]
      · rw [if_neg marked]
        change i ∈ k :: (reach (marks.set k true inside) rest).2 ↔ _
        rw [List.mem_cons, ih, Array.getElem?_set]
        by_cases here : k = i
        · subst here
          simp [inside, marked]
        · simp [here, Ne.symm here]
    · rw [dif_neg inside, ih]
      by_cases here : i = k
      · subst here
        simp [inside]
      · simp [here]

end Reach

theorem size_reachable (g : Graph) : g.reachable.size = g.nodes.size := by
  have spread_size (marks : Array Bool) (queue : List Nat) :
      (g.spread marks queue).size = marks.size := by
    fun_induction spread g marks queue with
    | case1 marks => rfl
    | case2 marks i queue ih => rw [ih, size_reach]
  rw [reachable, spread_size, size_reach, Array.size_replicate]

theorem marked_reach_start_iff {starts : List Nat} {size i : Nat}
    (there : ∀ i ∈ starts, i < size) :
    (reach (.replicate size false) starts).1[i]? = some true ↔ i ∈ starts := by
  rw [marked_reach_iff, Array.getElem?_replicate, Array.size_replicate]
  constructor
  · rintro (h | h)
    · split at h <;> simp at h
    · exact h.1
  · exact fun h => .inr ⟨h, there i h⟩

/-- A state of the search from the starts: the marks, and the queue of nodes to go on from. -/
structure Spreading (g : Graph) (starts : List Nat) (marks : Array Bool) (queue : List Nat) :
    Prop where
  size : marks.size = g.nodes.size
  started : ∀ i ∈ starts, marks[i]? = some true
  queued : ∀ i ∈ queue, marks[i]? = some true
  reached : ∀ i, marks[i]? = some true → ∃ r ∈ starts, Relation.ReflTransGen g.LeadsTo r i
  closed : ∀ i, marks[i]? = some true → i ∈ queue ∨ ∀ j, g.LeadsTo i j → marks[j]? = some true

namespace Spreading

variable {g : Graph} {starts : List Nat} {marks : Array Bool} {queue : List Nat}

theorem start (there : ∀ i ∈ starts, i < g.nodes.size) :
    Spreading g starts (reach (.replicate g.nodes.size false) starts).1
      (reach (.replicate g.nodes.size false) starts).2 := by
  have marked := fun i => marked_reach_start_iff there (i := i)
  have fresh : ∀ i, i ∈ (reach (.replicate g.nodes.size false) starts).2 ↔ i ∈ starts := by
    intro i
    rw [mem_fresh_reach_iff, Array.getElem?_replicate]
    refine ⟨And.left, fun h => ⟨h, ?_⟩⟩
    rw [if_pos (there i h)]
  exact {
    size := by simp
    started := fun i hi => (marked i).2 hi
    queued := fun i hi => (marked i).2 ((fresh i).1 hi)
    reached := fun i hi => ⟨i, (marked i).1 hi, .refl⟩
    closed := fun i hi => .inl ((fresh i).2 ((marked i).1 hi)) }

theorem next (inside : ∀ u v, g.LeadsTo u v → v < g.nodes.size) {i : Nat}
    (h : Spreading g starts marks (i :: queue)) :
    Spreading g starts (reach marks (g.children i)).1
      (queue ++ (reach marks (g.children i)).2) where
  size := by rw [size_reach, h.size]
  started := by
    intro j hj
    exact (marked_reach_iff ..).2 (.inl (h.started j hj))
  queued := by
    intro j hj
    rw [marked_reach_iff]
    rcases List.mem_append.1 hj with hj | hj
    · exact .inl (h.queued j (List.mem_cons_of_mem _ hj))
    · obtain ⟨child, unmarked⟩ := (mem_fresh_reach_iff ..).1 hj
      exact .inr ⟨child, (Array.getElem?_eq_some_iff.1 unmarked).1⟩
  reached := by
    intro j hj
    rcases (marked_reach_iff ..).1 hj with hj | ⟨hj, _⟩
    · exact h.reached j hj
    · obtain ⟨r, hr, path⟩ := h.reached i (h.queued i List.mem_cons_self)
      exact ⟨r, hr, path.tail hj⟩
  closed := by
    have kept : ∀ j, marks[j]? = some true → (reach marks (g.children i)).1[j]? = some true :=
      fun j hj => (marked_reach_iff ..).2 (.inl hj)
    intro j hj
    by_cases old : marks[j]? = some true
    · rcases h.closed j old with waits | after
      · rcases List.mem_cons.1 waits with rfl | waits
        · right
          intro k leads
          exact (marked_reach_iff ..).2 (.inr ⟨leads, h.size ▸ inside j k leads⟩)
        · exact .inl (List.mem_append_left _ waits)
      · exact .inr fun k leads => kept k (after k leads)
    · obtain ⟨child, small⟩ := ((marked_reach_iff ..).1 hj).resolve_left old
      have unmarked : marks[j]? = some false := by
        rw [Array.getElem?_eq_getElem small] at old ⊢
        simpa using old
      exact .inl (List.mem_append_right _ ((mem_fresh_reach_iff ..).2 ⟨child, unmarked⟩))

theorem spread (inside : ∀ u v, g.LeadsTo u v → v < g.nodes.size)
    (h : Spreading g starts marks queue) : Spreading g starts (g.spread marks queue) [] := by
  fun_induction Graph.spread g marks queue with
  | case1 marks => exact h
  | case2 marks i queue ih => exact ih (h.next inside)

theorem marked_iff (h : Spreading g starts marks []) (i : Nat) :
    marks[i]? = some true ↔ ∃ r ∈ starts, Relation.ReflTransGen g.LeadsTo r i := by
  constructor
  · exact h.reached i
  · rintro ⟨r, hr, path⟩
    induction path with
    | refl => exact h.started r hr
    | tail _ leads ih => exact (h.closed _ ih).resolve_left List.not_mem_nil _ leads

end Spreading

theorem reachable_iff {g : Graph} (inside : ∀ u v, g.LeadsTo u v → v < g.nodes.size)
    (there : ∀ r ∈ g.roots, r < g.nodes.size) (i : Nat) :
    g.reachable[i]? = some true ↔ ∃ r ∈ g.roots, Relation.ReflTransGen g.LeadsTo r i :=
  ((Spreading.start there).spread inside).marked_iff i

theorem lt_of_mem_roots {g : Graph} {i : Nat} (root : i ∈ g.roots) : i < g.nodes.size := by
  obtain ⟨n, here, _⟩ := Graph.mem_roots_iff.1 root
  exact (Array.getElem?_eq_some_iff.1 here).1

/-! Entry points and reachability by edges alone. -/

def IsEntryPoint (g : Graph) (i : Nat) : Prop :=
  (∃ a, g.entries[i]? = some (.storyArc a)) ∧ ∀ e ∈ g.edges, e.target ≠ i

def Edgeless (g : Graph) (i : Nat) : Prop := ∀ e ∈ g.edges, e.source ≠ i ∧ e.target ≠ i

instance (g : Graph) : DecidablePred g.Edgeless := fun i =>
  inferInstanceAs (Decidable (∀ e ∈ g.edges, e.source ≠ i ∧ e.target ≠ i))

namespace Coherent

variable {g : Graph} {i : Nat} {n : Node}

theorem incoming_isEmpty_iff (coherent : g.Coherent) (here : g.nodes[i]? = some n) :
    n.incoming.isEmpty = true ↔ ∀ e ∈ g.edges, e.target ≠ i := by
  have parents : g.parents i = n.incoming.elements := by simp [Graph.parents, here]
  rw [SortedSet.isEmpty, List.isEmpty_iff, ← parents, List.eq_nil_iff_forall_not_mem]
  constructor
  · intro none e he target
    exact none e.source ((coherent.mem_parents_iff i e.source).2 ⟨e, he, target, rfl⟩)
  · intro none j hj
    obtain ⟨e, he, target, _⟩ := (coherent.mem_parents_iff i j).1 hj
    exact none e he target

theorem outgoing_isEmpty_iff (coherent : g.Coherent) (here : g.nodes[i]? = some n) :
    n.outgoing.isEmpty = true ↔ ∀ e ∈ g.edges, e.source ≠ i := by
  have children : g.children i = n.outgoing.elements := by simp [Graph.children, here]
  rw [SortedSet.isEmpty, List.isEmpty_iff, ← children, List.eq_nil_iff_forall_not_mem]
  constructor
  · intro none e he source
    exact none e.target ((coherent.mem_children_iff i e.target).2 ⟨e, he, source, rfl⟩)
  · intro none j hj
    obtain ⟨e, he, source, _⟩ := (coherent.mem_children_iff i j).1 hj
    exact none e he source

theorem isOrphan_iff (coherent : g.Coherent) (here : g.nodes[i]? = some n) :
    n.isOrphan = true ↔ g.Edgeless i := by
  rw [Node.isOrphan, Bool.and_eq_true, coherent.incoming_isEmpty_iff here,
    coherent.outgoing_isEmpty_iff here]
  exact ⟨fun h e he => ⟨h.2 e he, h.1 e he⟩,
    fun h => ⟨fun e he => (h e he).2, fun e he => (h e he).1⟩⟩

theorem mem_roots_iff (coherent : g.Coherent) : i ∈ g.roots ↔ g.IsEntryPoint i := by
  rw [Graph.mem_roots_iff, IsEntryPoint, getElem?_entries]
  constructor
  · rintro ⟨n, here, arc, none⟩
    refine ⟨?_, (coherent.incoming_isEmpty_iff here).1 none⟩
    rw [here]
    cases entry : n.entry with
    | storyArc a => exact ⟨a, congrArg some entry⟩
    | quest q => simp [Node.kind, Entry.kind, entry] at arc
    | dialogue d => simp [Node.kind, Entry.kind, entry] at arc
  · rintro ⟨⟨a, arc⟩, none⟩
    obtain ⟨n, here, entry⟩ := Option.map_eq_some_iff.1 arc
    exact ⟨n, here, by rw [Node.kind, entry]; rfl, (coherent.incoming_isEmpty_iff here).2 none⟩

theorem reachable_iff (coherent : g.Coherent) (i : Nat) : g.reachable[i]? = some true ↔
    ∃ r, g.IsEntryPoint r ∧ Relation.ReflTransGen g.LeadsTo r i := by
  rw [Graph.reachable_iff (fun _ _ => coherent.lt_of_leadsTo) fun _ => lt_of_mem_roots]
  simp only [coherent.mem_roots_iff]

end Coherent

end Storyline.Graph
