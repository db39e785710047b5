import Mathlib.Data.List.Nodup
import Storyline.Graph.Loop
import Storyline.Proofs.Graph.Cycle

/-!
The depth-first search for the edges that close a loop. Finished nodes form a settled list, and the
path is a walk; both hold of every state of the search. From the first, no closed walk avoids the
edges found; from the second, each edge found is the last of a cycle.
-/
namespace Storyline.Graph

/-- A step from the near end of a walk to one of its nodes closes a cycle. The near end comes
first, and each node is led to by the one after it. -/
theorem closes_of_mem {g : Graph} {i child : Nat} {nodes : List Nat}
    (chain : (i :: nodes).IsChain fun a b => g.LeadsTo b a) (nodup : (i :: nodes).Nodup)
    (mem : child ∈ i :: nodes) (leads : g.LeadsTo i child) : g.Closes i child := by
  obtain ⟨before, after, eq⟩ := List.append_of_mem mem
  have cut : before ++ [child] <+: i :: nodes := ⟨after, by simp [eq]⟩
  have first : (before ++ [child]).head? = some i := by
    cases before with
    | nil => simp [(List.cons.inj eq).1]
    | cons b before => simp [(List.cons.inj eq).1]
  have turned : child :: before.reverse = (before ++ [child]).reverse := by simp
  refine ⟨before.reverse, ⟨?_, ?_⟩, ?_⟩
  · have closed : (child :: (before ++ [child])).IsChain fun a b => g.LeadsTo b a := by
      refine List.isChain_cons.2 ⟨?_, chain.prefix cut⟩
      intro y hy
      rw [first] at hy
      cases hy
      exact leads
    have back := List.isChain_reverse.2 closed
    simpa [IsClosedWalk] using back
  · rw [turned]
    exact List.nodup_reverse.2 (nodup.sublist cut.sublist)
  · rw [turned, List.getLast?_reverse, first]

/-- What has been looked at along the path: an edge of a node on it is still to come, closes a loop,
leads to a finished node, or leads to the next node of the path. -/
def LookedAt (g : Graph) (back : List (Nat × Nat)) (order : List Nat) :
    Option Nat → List Frame → Prop
  | _, [] => True
  | next, (i, rest) :: path =>
    (∀ v ∈ rest, g.LeadsTo i v) ∧
    (∀ v, g.LeadsTo i v → v ∈ rest ∨ (i, v) ∈ back ∨ v ∈ order ∨ next = some v) ∧
    LookedAt g back order (some i) path

theorem LookedAt.mono {g : Graph} {back more : List (Nat × Nat)} {order longer : List Nat}
    {next after : Option Nat} {path : List Frame} (h : LookedAt g back order next path)
    (sub : ∀ e ∈ back, e ∈ more) (finished : ∀ v ∈ order, v ∈ longer)
    (turn : ∀ v, next = some v → v ∈ longer ∨ after = some v) :
    LookedAt g more longer after path := by
  induction path generalizing next after with
  | nil => trivial
  | cons frame path ih =>
    obtain ⟨i, rest⟩ := frame
    obtain ⟨within, edges, below⟩ := h
    refine ⟨within, ?_, ih below fun v hv => .inr hv⟩
    intro v leads
    rcases edges v leads with h | h | h | h
    · exact .inl h
    · exact .inr (.inl (sub _ h))
    · exact .inr (.inr (.inl (finished v h)))
    · exact .inr (.inr (turn v h))

abbrev onPath (path : List Frame) : List Nat := path.map (·.1)

structure Searching (g : Graph) (marks : Array Mark) (path : List Frame)
    (back : List (Nat × Nat)) (order : List Nat) : Prop where
  size : marks.size = g.nodes.size
  onPath_iff : ∀ i, marks[i]? = some .onPath ↔ i ∈ onPath path
  finished_iff : ∀ i, marks[i]? = some .finished ↔ i ∈ order
  nodup : (onPath path).Nodup
  chain : (onPath path).IsChain fun a b => g.LeadsTo b a
  lookedAt : LookedAt g back order none path
  settled : Settled g back order
  closes : ∀ e ∈ back, g.Closes e.1 e.2

namespace Searching

variable {g : Graph} {marks : Array Mark} {path : List Frame} {back : List (Nat × Nat)}
  {order : List Nat} {i child : Nat} {rest : List Nat}

theorem start (g : Graph) : Searching g (.replicate g.nodes.size .unvisited) [] [] [] where
  size := by simp
  onPath_iff := by
    intro i
    simp [Array.getElem?_replicate]
  finished_iff := by
    intro i
    simp [Array.getElem?_replicate]
  nodup := .nil
  chain := .nil
  lookedAt := trivial
  settled := .nil
  closes := by simp

theorem finish (h : Searching g marks ((i, []) :: path) back order) :
    Searching g (finish marks i) path back (i :: order) := by
  obtain ⟨_, edges, below⟩ := h.lookedAt
  obtain ⟨fresh, nodup⟩ := List.nodup_cons.1 h.nodup
  have marked : marks[i]? = some .onPath := (h.onPath_iff i).2 List.mem_cons_self
  have inside : i < marks.size := (Array.getElem?_eq_some_iff.1 marked).1
  have after : ∀ j, (Graph.finish marks i)[j]? = if i = j then some .finished else marks[j]? := by
    intro j
    rw [Graph.finish, dif_pos inside, Array.getElem?_set]
  have unfinished : i ∉ order := by
    intro mem
    have := (h.finished_iff i).2 mem
    rw [marked] at this
    cases this
  exact {
    size := by rw [Graph.finish, dif_pos inside, Array.size_set, h.size]
    onPath_iff := by
      intro j
      rw [after]
      by_cases here : i = j
      · subst here
        simpa using fresh
      · rw [if_neg here, h.onPath_iff]
        simp [Ne.symm here]
    finished_iff := by
      intro j
      rw [after]
      by_cases here : i = j
      · simp [here]
      · rw [if_neg here, h.finished_iff]
        simp [Ne.symm here]
    nodup
    chain := h.chain.of_cons
    lookedAt := below.mono (fun _ h => h) (fun _ h => List.mem_cons_of_mem _ h) (by simp)
    settled := by
      refine .cons unfinished ?_ h.settled
      intro v leads
      rcases edges v leads with h | h | h | h
      · cases h
      · exact .inl h
      · exact .inr h
      · cases h
    closes := h.closes }

/-- The search enters a node that bears no mark, from the near end of the path if there is one. -/
theorem enter (h : Searching g marks path back order) {j : Nat} {below : List Frame}
    (same : onPath below = onPath path) (inside : j < marks.size)
    (unvisited : marks[j] = .unvisited) (leads : ∀ i ∈ (onPath path).head?, g.LeadsTo i j)
    (lookedAt : LookedAt g back order (some j) below) :
    Searching g (marks.set j .onPath inside) ((j, g.children j) :: below) back order := by
  have unmarked : marks[j]? = some .unvisited := by
    rw [Array.getElem?_eq_getElem inside, unvisited]
  have fresh : j ∉ onPath path := by
    intro mem
    have marked := (h.onPath_iff j).2 mem
    rw [unmarked] at marked
    cases marked
  have unfinished : j ∉ order := by
    intro mem
    have marked := (h.finished_iff j).2 mem
    rw [unmarked] at marked
    cases marked
  have nodes : onPath ((j, g.children j) :: below) = j :: onPath path := by
    rw [← same]
    rfl
  exact {
    size := by rw [Array.size_set, h.size]
    onPath_iff := by
      intro k
      rw [Array.getElem?_set, nodes, List.mem_cons]
      by_cases here : j = k
      · simp [here]
      · rw [if_neg here, h.onPath_iff]
        simp [Ne.symm here]
    finished_iff := by
      intro k
      rw [Array.getElem?_set]
      by_cases here : j = k
      · subst here
        simpa using unfinished
      · rw [if_neg here, h.finished_iff]
    nodup := by
      rw [nodes]
      exact List.nodup_cons.2 ⟨fresh, h.nodup⟩
    chain := by
      rw [nodes]
      exact List.isChain_cons.2 ⟨leads, h.chain⟩
    lookedAt := ⟨fun v hv => hv, fun v hv => .inl hv, lookedAt⟩
    settled := h.settled
    closes := h.closes }

theorem descend (h : Searching g marks ((i, child :: rest) :: path) back order)
    (inside : child < marks.size) (unvisited : marks[child] = .unvisited) :
    Searching g (marks.set child .onPath inside)
      ((child, g.children child) :: (i, rest) :: path) back order := by
  obtain ⟨within, edges, below⟩ := h.lookedAt
  have same : onPath ((i, rest) :: path) = onPath ((i, child :: rest) :: path) := rfl
  refine h.enter same inside unvisited ?_ ⟨?_, ?_, below⟩
  · intro j hj
    cases hj
    exact within child List.mem_cons_self
  · exact fun v hv => within v (List.mem_cons_of_mem _ hv)
  · intro v leads
    rcases edges v leads with h | h | h | h
    · rcases List.mem_cons.1 h with rfl | h
      · exact .inr (.inr (.inr rfl))
      · exact .inl h
    · exact .inr (.inl h)
    · exact .inr (.inr (.inl h))
    · cases h

theorem pass (h : Searching g marks ((i, child :: rest) :: path) back order)
    {more : List (Nat × Nat)} (sub : ∀ e ∈ back, e ∈ more) (closes : ∀ e ∈ more, g.Closes e.1 e.2)
    (done : (i, child) ∈ more ∨ child ∈ order) :
    Searching g marks ((i, rest) :: path) more order := by
  obtain ⟨within, edges, below⟩ := h.lookedAt
  exact {
    size := h.size
    onPath_iff := h.onPath_iff
    finished_iff := h.finished_iff
    nodup := h.nodup
    chain := h.chain
    lookedAt := by
      refine ⟨fun v hv => within v (List.mem_cons_of_mem _ hv), ?_,
        below.mono sub (fun _ h => h) fun v hv => .inr hv⟩
      intro v leads
      rcases edges v leads with h | h | h | h
      · rcases List.mem_cons.1 h with rfl | h
        · exact .inr (done.imp id .inl)
        · exact .inl h
      · exact .inr (.inl (sub _ h))
      · exact .inr (.inr (.inl h))
      · cases h
    settled := h.settled.mono sub
    closes }

theorem close (h : Searching g marks ((i, child :: rest) :: path) back order)
    (inside : child < marks.size) (onPath : marks[child] = .onPath) :
    Searching g marks ((i, rest) :: path) ((i, child) :: back) order := by
  have mem := (h.onPath_iff child).1 (by rw [Array.getElem?_eq_getElem inside, onPath])
  have leads := h.lookedAt.1 child List.mem_cons_self
  refine h.pass (fun e he => List.mem_cons_of_mem _ he) ?_ (.inl List.mem_cons_self)
  intro e he
  rcases List.mem_cons.1 he with rfl | he
  · exact closes_of_mem h.chain h.nodup mem leads
  · exact h.closes e he

theorem skip (h : Searching g marks ((i, child :: rest) :: path) back order)
    (inside : child < marks.size) (finished : marks[child] = .finished) :
    Searching g marks ((i, rest) :: path) back order := by
  have mem := (h.finished_iff child).1 (by rw [Array.getElem?_eq_getElem inside, finished])
  exact h.pass (fun _ h => h) h.closes (.inr mem)

/-- A walk ends with all of its path finished. Edges lead to nodes that are there. -/
theorem walk (inside : ∀ u v, g.LeadsTo u v → v < g.nodes.size)
    (h : Searching g marks path back order) :
    ∃ longer, Searching g (g.walk marks path back).1 [] (g.walk marks path back).2 longer ∧
      ∀ v, v ∈ onPath path ∨ v ∈ order → v ∈ longer := by
  fun_induction Graph.walk g marks path back generalizing order with
  | case1 marks back => exact ⟨order, h, by simp⟩
  | case2 marks back i path ih =>
    obtain ⟨longer, searched, kept⟩ := ih h.finish
    refine ⟨longer, searched, ?_⟩
    intro v hv
    apply kept
    simp only [onPath, List.map_cons, List.mem_cons] at hv ⊢
    rcases hv with (hv | hv) | hv
    · exact .inr (.inl hv)
    · exact .inl hv
    · exact .inr (.inr hv)
  | case3 marks back i child rest path here unvisited ih =>
    obtain ⟨longer, searched, kept⟩ := ih (h.descend here unvisited)
    exact ⟨longer, searched, fun v hv => kept v (hv.imp (List.mem_cons_of_mem _) id)⟩
  | case4 marks back i child rest path here onPath ih => exact ih (h.close here onPath)
  | case5 marks back i child rest path here finished ih => exact ih (h.skip here finished)
  | case6 marks back i child rest path outside ih =>
    have leads := h.lookedAt.1 child List.mem_cons_self
    exact absurd (h.size ▸ inside i child leads) outside

theorem walkFrom (inside : ∀ u v, g.LeadsTo u v → v < g.nodes.size)
    (h : Searching g marks [] back order) (start : Nat) (there : start < g.nodes.size) :
    ∃ longer, Searching g (g.walkFrom (marks, back) start).1 [] (g.walkFrom (marks, back) start).2
        longer ∧ start ∈ longer ∧ ∀ v ∈ order, v ∈ longer := by
  have bound : start < marks.size := h.size ▸ there
  rw [Graph.walkFrom, dif_pos bound]
  by_cases unvisited : marks[start] = .unvisited
  · rw [if_pos unvisited]
    obtain ⟨longer, searched, kept⟩ :=
      (h.enter rfl bound unvisited (by simp) trivial).walk inside
    exact ⟨longer, searched, kept start (.inl List.mem_cons_self), fun v hv => kept v (.inr hv)⟩
  · rw [if_neg unvisited]
    refine ⟨order, h, (h.finished_iff start).1 ?_, fun _ hv => hv⟩
    rw [Array.getElem?_eq_getElem bound]
    cases mark : marks[start] with
    | unvisited => exact absurd mark unvisited
    | onPath =>
      have mem := (h.onPath_iff start).1 (by rw [Array.getElem?_eq_getElem bound, mark])
      cases mem
    | finished => rfl

theorem foldl_walkFrom (inside : ∀ u v, g.LeadsTo u v → v < g.nodes.size) (starts : List Nat)
    (there : ∀ s ∈ starts, s < g.nodes.size) (state : Array Mark × List (Nat × Nat))
    (h : Searching g state.1 [] state.2 order) :
    ∃ longer, Searching g (starts.foldl g.walkFrom state).1 [] (starts.foldl g.walkFrom state).2
        longer ∧ ∀ v, v ∈ starts ∨ v ∈ order → v ∈ longer := by
  induction starts generalizing state order with
  | nil => exact ⟨order, h, by simp⟩
  | cons s starts ih =>
    obtain ⟨middle, searched, mem, kept⟩ := h.walkFrom inside s (there s List.mem_cons_self)
    obtain ⟨longer, ends, all⟩ :=
      ih (fun t ht => there t (List.mem_cons_of_mem _ ht)) (g.walkFrom state s) searched
    refine ⟨longer, ends, ?_⟩
    intro v hv
    apply all
    rcases hv with hv | hv
    · rcases List.mem_cons.1 hv with rfl | hv
      · exact .inr mem
      · exact .inl hv
    · exact .inr (kept v hv)

end Searching

/-- Every edge found is the last of a cycle, and the nodes can be listed in such a way that every
other edge leads down the list. -/
theorem backEdges_settle {g : Graph} (inside : ∀ u v, g.LeadsTo u v → v < g.nodes.size) :
    (∀ e ∈ g.backEdges, g.Closes e.1 e.2) ∧
    ∃ order, Settled g g.backEdges order ∧ ∀ v < g.nodes.size, v ∈ order := by
  obtain ⟨order, searched, all⟩ := Searching.foldl_walkFrom inside (List.range g.nodes.size)
    (fun s hs => List.mem_range.1 hs) (.replicate g.nodes.size .unvisited, []) (Searching.start g)
  have found : ∀ e, e ∈ g.backEdges ↔ e ∈ ((List.range g.nodes.size).foldl g.walkFrom
      (.replicate g.nodes.size .unvisited, [])).2 := fun e => List.mem_reverse
  refine ⟨fun e he => searched.closes e ((found e).1 he), order,
    searched.settled.mono fun e he => (found e).2 he, ?_⟩
  intro v hv
  exact all v (.inl (List.mem_range.2 hv))

theorem exists_backEdge_of_isClosedWalk {g : Graph}
    (inside : ∀ u v, g.LeadsTo u v → v < g.nodes.size) {c : List Nat} (closed : g.IsClosedWalk c) :
    ∃ e ∈ g.backEdges, e.1 ∈ c ∧ e.2 ∈ c := by
  obtain ⟨_, order, settled, all⟩ := backEdges_settle inside
  obtain ⟨u, v, mem, hu, hv⟩ :=
    settled.exists_mem_of_isClosedWalk closed fun w hw => all w (closed.lt_of_mem hw)
  exact ⟨(u, v), mem, hu, hv⟩

end Storyline.Graph
