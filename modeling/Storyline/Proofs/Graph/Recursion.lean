import Storyline.Proofs.Graph.BackEdge

/-!
The depth-first search as a recursion: a node is on the path while its children are visited one by
one, and finished after. The search with the path on a stack finds the same, because what it does
with a node and the children left to it is what the recursion does, whatever stands below.
-/
namespace Storyline.Graph

/-- The marks after a part of the search, and the pairs found in it. No node becomes unvisited
again, and this is why the recursion ends. -/
structure Searched (before : Array Mark) where
  marks : Array Mark
  back : List (Nat × Nat)
  fewer : marks.count .unvisited ≤ before.count .unvisited

section Recursion

-- the children of each node
variable (next : Nat → List Nat)

mutual

def visit (marks : Array Mark) (i : Nat) (here : i < marks.size)
    (unvisited : marks[i] = .unvisited) : Searched marks :=
  let inner := lookAt (marks.set i .onPath here) i (next i)
  { marks := finish inner.marks i
    back := inner.back
    fewer := by
      have entered := count_set_add_one here unvisited (b := Mark.onPath) (by decide)
      have left := (count_finish_le inner.marks i).trans inner.fewer
      omega }
termination_by (marks.count .unvisited, 0)
decreasing_by
  have := count_set_add_one here unvisited (b := Mark.onPath) (by decide)
  exact .left _ _ (by omega)

def lookAt (marks : Array Mark) (i : Nat) (children : List Nat) : Searched marks :=
  match children with
  | [] => ⟨marks, [], Nat.le_refl _⟩
  | child :: rest =>
    if here : child < marks.size then
      match seen : marks[child] with
      | .unvisited =>
        let first := visit marks child here seen
        let later := lookAt first.marks i rest
        ⟨later.marks, first.back ++ later.back, later.fewer.trans first.fewer⟩
      | .onPath =>
        let later := lookAt marks i rest
        ⟨later.marks, (i, child) :: later.back, later.fewer⟩
      | .finished => lookAt marks i rest
    else lookAt marks i rest
termination_by (marks.count .unvisited, children.length + 1)
decreasing_by
  · exact .right _ (by simp)
  · rcases Nat.lt_or_eq_of_le first.fewer with less | same
    · exact .left _ _ less
    · rw [same]
      exact .right _ (by simp)
  all_goals exact .right _ (by simp)

end

def visitAll (marks : Array Mark) : List Nat → List (Nat × Nat)
  | [] => []
  | start :: starts =>
    if here : start < marks.size then
      if unvisited : marks[start] = .unvisited then
        let first := visit next marks start here unvisited
        first.back ++ visitAll first.marks starts
      else visitAll marks starts
    else visitAll marks starts

def depthFirst (size : Nat) : List (Nat × Nat) :=
  visitAll next (.replicate size .unvisited) (List.range size)

variable {marks : Array Mark} {i child : Nat} {children : List Nat}
  (here : child < marks.size)

/-! What becomes of the first child, by its mark. -/

theorem lookAt_nil (marks : Array Mark) (i : Nat) :
    lookAt next marks i [] = ⟨marks, [], Nat.le_refl _⟩ := by
  rw [lookAt]

theorem lookAt_unvisited (unvisited : marks[child] = .unvisited) :
    (lookAt next marks i (child :: children)).marks =
      (lookAt next (visit next marks child here unvisited).marks i children).marks ∧
    (lookAt next marks i (child :: children)).back =
      (visit next marks child here unvisited).back ++
        (lookAt next (visit next marks child here unvisited).marks i children).back := by
  rw [lookAt, dif_pos here]
  split
  next => exact ⟨rfl, rfl⟩
  next onPath => rw [unvisited] at onPath; cases onPath
  next finished => rw [unvisited] at finished; cases finished

theorem lookAt_onPath (onPath : marks[child] = .onPath) :
    (lookAt next marks i (child :: children)).marks = (lookAt next marks i children).marks ∧
    (lookAt next marks i (child :: children)).back =
      (i, child) :: (lookAt next marks i children).back := by
  rw [lookAt, dif_pos here]
  split
  next unvisited => rw [onPath] at unvisited; cases unvisited
  next => exact ⟨rfl, rfl⟩
  next finished => rw [onPath] at finished; cases finished

theorem lookAt_finished (finished : marks[child] = .finished) :
    lookAt next marks i (child :: children) = lookAt next marks i children := by
  rw [lookAt, dif_pos here]
  split
  next unvisited => rw [finished] at unvisited; cases unvisited
  next onPath => rw [finished] at onPath; cases onPath
  next => rfl

variable {g : Graph} {path : List Frame} {back : List (Nat × Nat)}

theorem walk_unvisited (unvisited : marks[child] = .unvisited) :
    g.walk marks ((i, child :: children) :: path) back =
      g.walk (marks.set child .onPath here) ((child, g.children child) :: (i, children) :: path)
        back := by
  rw [walk, dif_pos here]
  split <;> simp_all

theorem walk_onPath (onPath : marks[child] = .onPath) :
    g.walk marks ((i, child :: children) :: path) back =
      g.walk marks ((i, children) :: path) ((i, child) :: back) := by
  rw [walk, dif_pos here]
  split <;> simp_all

theorem walk_finished (finished : marks[child] = .finished) :
    g.walk marks ((i, child :: children) :: path) back =
      g.walk marks ((i, children) :: path) back := by
  rw [walk, dif_pos here]
  split <;> simp_all

end Recursion

variable (g : Graph)

/-- Whatever stands below a node on the stack, the search first does what the recursion does with
the children left to the node, and then finishes it. -/
theorem walk_lookAt (marks : Array Mark) (i : Nat) (children : List Nat) (path : List Frame)
    (back : List (Nat × Nat)) :
    g.walk marks ((i, children) :: path) back =
      g.walk (finish (lookAt g.children marks i children).marks i) path
        ((lookAt g.children marks i children).back.reverse ++ back) := by
  -- by the recursion: a visit is a node that has just come onto the stack, with all its children
  induction marks, i, children using lookAt.induct g.children
    (fun marks i here unvisited => ∀ path back,
      g.walk (marks.set i .onPath here) ((i, g.children i) :: path) back =
        g.walk (visit g.children marks i here unvisited).marks path
          ((visit g.children marks i here unvisited).back.reverse ++ back))
    generalizing path back with
  | case1 marks i here unvisited inner => rw [inner, visit]
  | case2 marks i =>
    rw [walk, lookAt_nil]
    rfl
  | case3 marks i child rest here unvisited first visited later =>
    obtain ⟨marks_eq, back_eq⟩ := lookAt_unvisited g.children here unvisited
    rw [walk_unvisited here unvisited, visited, later, marks_eq, back_eq, List.reverse_append,
      List.append_assoc]
  | case4 marks i child rest here onPath later =>
    obtain ⟨marks_eq, back_eq⟩ := lookAt_onPath g.children here onPath
    rw [walk_onPath here onPath, later, marks_eq, back_eq, List.reverse_cons, List.append_assoc,
      List.singleton_append]
  | case5 marks i child rest here finished later =>
    rw [walk_finished here finished, later, lookAt_finished g.children here finished]
  | case6 marks i child rest outside later =>
    rw [walk, dif_neg outside, later, lookAt, dif_neg outside]

theorem walk_visit (marks : Array Mark) (i : Nat) (here : i < marks.size)
    (unvisited : marks[i] = .unvisited) (back : List (Nat × Nat)) :
    g.walk (marks.set i .onPath here) [(i, g.children i)] back =
      ((visit g.children marks i here unvisited).marks,
        (visit g.children marks i here unvisited).back.reverse ++ back) := by
  rw [walk_lookAt, walk, visit]

theorem foldl_walkFrom_eq (marks : Array Mark) (back : List (Nat × Nat)) (starts : List Nat) :
    (starts.foldl g.walkFrom (marks, back)).2 =
      (visitAll g.children marks starts).reverse ++ back := by
  induction starts generalizing marks back with
  | nil => rfl
  | cons start starts ih =>
    rw [List.foldl_cons, walkFrom, visitAll]
    split
    next here =>
      split
      next unvisited =>
        rw [walk_visit _ _ _ _ unvisited, ih, List.reverse_append, List.append_assoc]
      next => exact ih marks back
    next => exact ih marks back

theorem children_ascending (i : Nat) : (g.children i).Pairwise (· < ·) := by
  rw [children]
  cases g.nodes[i]? with
  | none => exact .nil
  | some n => exact n.outgoing.ascending.imp Nat.compare_eq_lt.1

/-- The search with the path on a stack finds the same pairs as the recursion, in the same order.
Both look at the children of a node in ascending order, which in a graph that was built up by
additions are the nodes that its edges lead to. -/
theorem backEdges_recursive : g.backEdges = depthFirst g.children g.nodes.size ∧
    (∀ i, (g.children i).Pairwise (· < ·)) ∧
    (g.Grown → ∀ i j, j ∈ g.children i ↔ ∃ e ∈ g.edges, e.source = i ∧ e.target = j) := by
  refine ⟨?_, g.children_ascending, fun grown => grown.coherent.mem_children_iff⟩
  rw [backEdges, foldl_walkFrom_eq, List.append_nil, List.reverse_reverse, depthFirst]

def weir : Graph :=
  ((((empty.addNode (.quest { id := "gate" })).addNode (.quest { id := "pool" })).addEdge
    { source := 1, target := 1, kind := .outcome }).addEdge
    { source := 0, target := 1, kind := .outcome }).addEdge
    { source := 1, target := 0, kind := .outcome }

theorem weir_loops : weir.Grown ∧ weir.backEdges = [(1, 0), (1, 1)] ∧
    (0 ∈ weir.children 1 ↔ ∃ e ∈ weir.edges, e.source = 1 ∧ e.target = 0) := by
  have grown : weir.Grown :=
    .addEdge _ (.addEdge _ (.addEdge _ (.addNode _ (.addNode _ .empty)) (by decide) (by decide))
      (by decide) (by decide)) (by decide) (by decide)
  obtain ⟨same, _, mem⟩ := backEdges_recursive weir
  refine ⟨grown, ?_, mem grown 1 0⟩
  have first : weir.children 0 = [1] := by decide
  have second : weir.children 1 = [0, 1] := by decide
  have size : weir.nodes.size = 2 := by decide
  have fresh : Array.replicate 2 Mark.unvisited = #[.unvisited, .unvisited] := rfl
  rw [same, size, depthFirst, fresh]
  simp [visitAll, visit, lookAt_nil, lookAt_unvisited, lookAt_onPath, finish, first, second,
    List.range_succ]

end Storyline.Graph
