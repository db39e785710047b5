import Mathlib.Algebra.GroupWithZero.Nat
import Storyline.Proofs.Graph.Recursion

/-!
The depth-first search, turn by turn. A turn takes up a start, looks at the next child of the node
at the near end of the path, or takes that node off. Beside its state the search keeps what it has
put on the path and which pairs it has looked at; the tallies of both say that each node and each
pair has its turn just once, and then there is nothing left to do.
-/
namespace Storyline.Graph

/-- The search between two turns. The nodes that were put on the path and the pairs that were looked
at are listed last first, as are the pairs that led back. -/
structure Search where
  starts : List Nat
  marks : Array Mark
  path : List Frame := []
  back : List (Nat × Nat) := []
  pushed : List Nat := []
  inspected : List (Nat × Nat) := []

namespace Search

def first (g : Graph) : Search :=
  { starts := List.range g.nodes.size, marks := .replicate g.nodes.size .unvisited }

def push (g : Graph) (s : Search) (i : Nat) : Search :=
  { s with
    marks := s.marks.setIfInBounds i .onPath
    path := (i, g.children i) :: s.path
    pushed := i :: s.pushed }

def look (s : Search) (i child : Nat) : Search :=
  { s with inspected := (i, child) :: s.inspected }

def turn? (g : Graph) (s : Search) : Option Search :=
  match s.path, s.starts with
  | [], [] => none
  | [], i :: starts =>
    let rest := { s with starts }
    some (if s.marks[i]? = some .unvisited then rest.push g i else rest)
  | (i, []) :: path, _ => some { s with path, marks := finish s.marks i }
  | (i, child :: children) :: path, _ =>
    let looked := { s with path := (i, children) :: path }.look i child
    match s.marks[child]? with
    | some .unvisited => some (looked.push g child)
    | some .onPath => some { looked with back := (i, child) :: s.back }
    | _ => some looked

inductive Turn (g : Graph) : Search → Search → Prop where
  | start (s : Search) (i : Nat) (bare : s.path = []) (unvisited : s.marks[i]? = some .unvisited) :
      Turn g { s with starts := i :: s.starts } (s.push g i)
  | pass (s : Search) (i : Nat) (bare : s.path = []) (visited : s.marks[i]? ≠ some .unvisited) :
      Turn g { s with starts := i :: s.starts } s
  | leave (s : Search) (i : Nat) :
      Turn g { s with path := (i, []) :: s.path } { s with marks := finish s.marks i }
  | descend (s : Search) (i child : Nat) (children : List Nat)
      (unvisited : s.marks[child]? = some .unvisited) :
      Turn g { s with path := (i, child :: children) :: s.path }
        (({ s with path := (i, children) :: s.path }.look i child).push g child)
  | close (s : Search) (i child : Nat) (children : List Nat)
      (onPath : s.marks[child]? = some .onPath) :
      Turn g { s with path := (i, child :: children) :: s.path }
        ({ s with path := (i, children) :: s.path, back := (i, child) :: s.back }.look i child)
  | skip (s : Search) (i child : Nat) (children : List Nat)
      (unvisited : s.marks[child]? ≠ some .unvisited) (onPath : s.marks[child]? ≠ some .onPath) :
      Turn g { s with path := (i, child :: children) :: s.path }
        ({ s with path := (i, children) :: s.path }.look i child)

variable {g : Graph} {s s' last : Search} {n : Nat}

theorem turn_of_turn? (next : s.turn? g = some s') : Turn g s s' := by
  obtain ⟨starts, marks, path, back, pushed, inspected⟩ := s
  match path, starts with
  | [], [] => cases next
  | [], i :: starts =>
    cases next
    let rest : Search := ⟨starts, marks, [], back, pushed, inspected⟩
    split
    next unvisited => exact .start rest i rfl unvisited
    next visited => exact .pass rest i rfl visited
  | (i, []) :: path, starts =>
    cases next
    exact .leave ⟨starts, marks, path, back, pushed, inspected⟩ i
  | (i, child :: children) :: path, starts =>
    let rest : Search := ⟨starts, marks, path, back, pushed, inspected⟩
    simp only [turn?] at next
    split at next
    next unvisited =>
      cases next
      exact .descend rest i child children unvisited
    next onPath =>
      cases next
      exact .close rest i child children onPath
    next unvisited onPath =>
      cases next
      exact .skip rest i child children unvisited onPath

theorem turn?_eq_none_iff : s.turn? g = none ↔ s.path = [] ∧ s.starts = [] := by
  obtain ⟨starts, marks, path, back, pushed, inspected⟩ := s
  match path, starts with
  | [], [] => simp [turn?]
  | [], i :: starts => simp [turn?]
  | (i, []) :: path, _ => simp [turn?]
  | (i, child :: children) :: path, _ =>
    simp only [turn?]
    split <;> simp

inductive Turns (g : Graph) : Nat → Search → Search → Prop where
  | none {s : Search} : Turns g 0 s s
  | more {n : Nat} {s s' s'' : Search} (next : s.turn? g = some s') (later : Turns g n s' s'') :
      Turns g (n + 1) s s''

theorem Turns.preserves {P : Search → Prop} (turns : Turns g n s last)
    (each : ∀ s s', Turn g s s' → P s → P s') (here : P s) : P last := by
  induction turns with
  | none => exact here
  | more next _ ih => exact ih (each _ _ (turn_of_turn? next) here)

/-! The search comes to an end: of nodes without a mark, and then of starts, children still to be
looked at and nodes on the path, each turn leaves fewer. -/

theorem Turn.fewer (turn : Turn g s s') :
    Prod.Lex (· < ·) (· < ·)
      (s'.marks.count .unvisited, s'.starts.length + pending s'.path)
      (s.marks.count .unvisited, s.starts.length + pending s.path) := by
  have entered : ∀ {marks : Array Mark} {j : Nat}, marks[j]? = some .unvisited →
      (marks.setIfInBounds j .onPath).count .unvisited < marks.count .unvisited := by
    intro marks j unvisited
    obtain ⟨here, unvisited⟩ := Array.getElem?_eq_some_iff.1 unvisited
    have fewer := count_set_add_one here unvisited (b := Mark.onPath) (by decide)
    rw [Array.setIfInBounds_def, dif_pos here]
    omega
  cases turn with
  | start s i bare unvisited => exact .left _ _ (entered unvisited)
  | pass s i bare visited => exact .right _ (by simp)
  | leave s i =>
    rcases Nat.lt_or_eq_of_le (count_finish_le s.marks i) with less | same
    · exact .left _ _ less
    · simp only [same]
      exact .right _ (by simp [pending])
  | descend s i child children unvisited => exact .left _ _ (entered unvisited)
  | close s i child children onPath => exact .right _ (by simp [pending, look])
  | skip s i child children unvisited onPath => exact .right _ (by simp [pending, look])

theorem exists_turns (g : Graph) (s : Search) :
    ∃ n last, Turns g n s last ∧ last.turn? g = none := by
  cases next : s.turn? g with
  | none => exact ⟨0, s, .none, next⟩
  | some s' =>
    have fewer := (turn_of_turn? next).fewer
    obtain ⟨n, last, turns, ended⟩ := exists_turns g s'
    exact ⟨n + 1, last, .more next turns, ended⟩
termination_by (s.marks.count .unvisited, s.starts.length + pending s.path)
decreasing_by exact fewer

/-- A turn is spent on a start, on a pair or on leaving a node. -/
theorem Turns.length_eq (turns : Turns g n s last) :
    n + last.starts.length + last.path.length + s.inspected.length + s.pushed.length =
      s.starts.length + s.path.length + last.inspected.length + last.pushed.length := by
  induction turns with
  | none => omega
  | more next _ ih =>
    cases turn_of_turn? next <;> simp [push, look] at ih ⊢ <;> omega

/-! The search turn by turn finds what the search finds. -/

def outcome (g : Graph) (s : Search) : List (Nat × Nat) :=
  (s.starts.foldl g.walkFrom (g.walk s.marks s.path s.back)).2

theorem Turn.outcome_eq (turn : Turn g s s') : s'.outcome g = s.outcome g := by
  have spot : ∀ {marks : Array Mark} {j : Nat} {m : Mark}, marks[j]? = some m →
      ∃ here : j < marks.size, marks[j] = m := fun mark => Array.getElem?_eq_some_iff.1 mark
  unfold outcome
  congr 1
  cases turn with
  | start s i bare unvisited =>
    obtain ⟨here, unvisited⟩ := spot unvisited
    simp only [push, bare, List.foldl_cons, walkFrom, walk, dif_pos here, if_pos unvisited,
      Array.setIfInBounds_def]
  | pass _ i bare visited =>
    have stays : g.walkFrom (s'.marks, s'.back) i = (s'.marks, s'.back) := by
      unfold walkFrom
      split
      next here =>
        rw [if_neg]
        intro unvisited
        exact visited (Array.getElem?_eq_some_iff.2 ⟨here, unvisited⟩)
      next => rfl
    simp only [bare, walk, List.foldl_cons, stays]
  | leave s i => simp only [walk]
  | descend s i child children unvisited =>
    obtain ⟨here, unvisited⟩ := spot unvisited
    simp only [push, look, walk_unvisited here unvisited, Array.setIfInBounds_def, dif_pos here]
  | close s i child children onPath =>
    obtain ⟨here, onPath⟩ := spot onPath
    simp only [look, walk_onPath here onPath]
  | skip s i child children unvisited onPath =>
    by_cases here : child < s.marks.size
    · rw [Array.getElem?_eq_getElem here] at unvisited onPath
      have finished : s.marks[child] = .finished := by
        cases mark : s.marks[child] <;> simp_all
      simp only [look, walk_finished here finished]
    · simp only [look, walk, dif_neg here]

/-! The tallies. -/

def visits (marks : Array Mark) (i : Nat) : Nat :=
  if marks[i]? = some .onPath ∨ marks[i]? = some .finished then 1 else 0

theorem visits_eq_one_iff {marks : Array Mark} {i : Nat} :
    visits marks i = 1 ↔ i < marks.size ∧ marks[i]? ≠ some .unvisited := by
  unfold visits
  by_cases here : i < marks.size
  · rw [Array.getElem?_eq_getElem here]
    cases marks[i] <;> simp [here]
  · simp [here]

theorem visits_eq_zero {marks : Array Mark} {i : Nat} (unvisited : marks[i]? = some .unvisited) :
    visits marks i = 0 := by
  simp [visits, unvisited]

theorem visits_setIfInBounds {marks : Array Mark} {j : Nat} (here : j < marks.size) (i : Nat) :
    visits (marks.setIfInBounds j .onPath) i = if i = j then 1 else visits marks i := by
  rw [visits, visits, Array.getElem?_setIfInBounds]
  by_cases same : i = j
  · simp [same, here]
  · simp [same, Ne.symm same]

theorem visits_finish {marks : Array Mark} {j : Nat} (met : visits marks j = 1) (i : Nat) :
    visits (finish marks j) i = visits marks i := by
  have here := (visits_eq_one_iff.1 met).1
  rw [finish, dif_pos here, visits, Array.getElem?_set]
  by_cases same : j = i
  · simp [same, same ▸ met]
  · simp [same, visits]

def awaited (path : List Frame) (i child : Nat) : Nat :=
  (path.map fun f => if f.1 = i then f.2.count child else 0).sum

/-- Every node that the search has come to was put on the path once. Of its pairs each was looked at
or is still to be. -/
structure Tallies (g : Graph) (s : Search) : Prop where
  size : s.marks.size = g.nodes.size
  path : ∀ f ∈ s.path, visits s.marks f.1 = 1
  starts : ∀ i < g.nodes.size, i ∈ s.starts ∨ visits s.marks i = 1
  pushed : ∀ i, s.pushed.count i = visits s.marks i
  inspected : ∀ i child, s.inspected.count (i, child) + awaited s.path i child =
    visits s.marks i * (g.children i).count child
  back : ∀ e, s.back.count e ≤ s.inspected.count e

theorem tallies_first (g : Graph) : Tallies g (first g) := by
  have unmet : ∀ i, visits (first g).marks i = 0 := by
    intro i
    simp [first, visits, Array.getElem?_replicate]
  exact {
    size := by simp [first]
    path := by simp [first]
    starts := fun i here => .inl (List.mem_range.2 here)
    pushed := fun i => (unmet i).symm
    inspected := by
      intro i child
      rw [unmet, Nat.zero_mul]
      rfl
    back := by simp [first] }

namespace Tallies

/-- A node without a mark comes onto the path with all its children. -/
theorem push (h : Tallies g s) {i : Nat} (unvisited : s.marks[i]? = some .unvisited) :
    Tallies g (s.push g i) := by
  have fresh := visits_eq_zero unvisited
  have met : ∀ k, visits (s.push g i).marks k = if k = i then 1 else visits s.marks k :=
    visits_setIfInBounds (Array.getElem?_eq_some_iff.1 unvisited).1
  exact {
    size := by simp [Search.push, h.size]
    path := by
      intro f onPath
      rw [met]
      rcases List.mem_cons.1 onPath with rfl | onPath
      · exact if_pos rfl
      · simp [h.path f onPath]
    starts := by
      intro k inside
      rw [met]
      refine (h.starts k inside).imp_right fun here => ?_
      simp [here]
    pushed := by
      intro k
      have tally := h.pushed k
      rw [met, Search.push, List.count_cons]
      by_cases same : k = i
      · subst same
        simpa [fresh] using tally
      · simpa [same, Ne.symm same] using tally
    inspected := by
      intro k child
      have tally := h.inspected k child
      rw [met, Search.push, awaited, List.map_cons, List.sum_cons]
      rw [awaited] at tally
      by_cases same : k = i
      · subst same
        rw [fresh] at tally
        simp only [if_true]
        omega
      · simp only [if_neg same, if_neg (Ne.symm same)]
        omega
    back := h.back }

theorem look {i child : Nat} {children : List Nat}
    (h : Tallies g { s with path := (i, child :: children) :: s.path }) :
    Tallies g ({ s with path := (i, children) :: s.path }.look i child) where
  size := h.size
  path := by
    intro f onPath
    rcases List.mem_cons.1 onPath with rfl | onPath
    · exact h.path (i, child :: children) List.mem_cons_self
    · exact h.path f (List.mem_cons_of_mem _ onPath)
  starts := h.starts
  pushed := h.pushed
  inspected := by
    intro k c
    have tally := h.inspected k c
    rw [← show visits s.marks k * _ = _ from rfl] at tally
    simp only [awaited, List.map_cons, List.sum_cons] at tally
    simp only [Search.look, awaited, List.map_cons, List.sum_cons, List.count_cons]
    rw [← tally]
    by_cases same : i = k
    · subst same
      by_cases this : child = c
      · simp only [this, List.count_cons_self, beq_self_eq_true, if_true]
        omega
      · simp [this]
    · have other : ((i, child) == (k, c)) = false := by simp [same]
      simp [same, other]
  back := by
    intro e
    exact (h.back e).trans (by simp [Search.look, List.count_cons])

theorem drop {i : Nat} (h : Tallies g { s with starts := i :: s.starts })
    (met : i < g.nodes.size → visits s.marks i = 1) : Tallies g s where
  size := h.size
  path := h.path
  starts := by
    intro k inside
    rcases h.starts k inside with waits | here
    · rcases List.mem_cons.1 waits with rfl | waits
      · exact .inr (met inside)
      · exact .inl waits
    · exact .inr here
  pushed := h.pushed
  inspected := h.inspected
  back := h.back

theorem leave {i : Nat} (h : Tallies g { s with path := (i, []) :: s.path }) :
    Tallies g { s with marks := finish s.marks i } := by
  have same : ∀ k, visits (finish s.marks i) k = visits s.marks k :=
    visits_finish (h.path (i, []) List.mem_cons_self)
  exact {
    size := by
      rw [← h.size]
      unfold finish
      split <;> simp
    path := by
      intro f onPath
      rw [same]
      exact h.path f (List.mem_cons_of_mem _ onPath)
    starts := by
      intro k inside
      rw [same]
      exact h.starts k inside
    pushed := by
      intro k
      rw [same]
      exact h.pushed k
    inspected := by
      intro k child
      have tally := h.inspected k child
      simp only [awaited, List.map_cons, List.sum_cons, List.count_nil, ite_self] at tally
      rw [same, ← tally, awaited, Nat.zero_add]
    back := h.back }

theorem close {i child : Nat} {children : List Nat}
    (h : Tallies g { s with path := (i, child :: children) :: s.path }) :
    Tallies g ({ s with path := (i, children) :: s.path, back := (i, child) :: s.back }.look i
      child) where
  size := h.size
  path := h.look.path
  starts := h.starts
  pushed := h.pushed
  inspected := h.look.inspected
  back := by
    intro e
    have tally : s.back.count e ≤ s.inspected.count e := h.back e
    simp only [Search.look, List.count_cons]
    omega

theorem turn (h : Tallies g s) (turn : Turn g s s') : Tallies g s' := by
  cases turn with
  | start s i bare unvisited =>
    have onPath := h.push unvisited
    have met := visits_setIfInBounds (Array.getElem?_eq_some_iff.1 unvisited).1 i
    rw [if_pos rfl] at met
    exact onPath.drop fun _ => met
  | pass _ i bare visited =>
    refine h.drop fun inside => visits_eq_one_iff.2 ⟨?_, visited⟩
    rw [h.size]
    exact inside
  | leave s i => exact h.leave
  | descend s i child children unvisited => exact h.look.push unvisited
  | close s i child children onPath => exact h.close
  | skip s i child children unvisited onPath => exact h.look

theorem at_end (h : Tallies g s) (ended : s.turn? g = none) (i child : Nat) :
    s.pushed.count i = (if i < g.nodes.size then 1 else 0) ∧
      s.inspected.count (i, child) = (g.children i).count child := by
  obtain ⟨bare, started⟩ := turn?_eq_none_iff.1 ended
  have tally := h.inspected i child
  rw [bare, show awaited [] i child = 0 from rfl, Nat.add_zero] at tally
  rw [h.pushed, tally]
  by_cases inside : i < g.nodes.size
  · have met : visits s.marks i = 1 := (h.starts i inside).resolve_left (by simp [started])
    rw [met, if_pos inside, Nat.one_mul]
    exact ⟨rfl, rfl⟩
  · have outside : s.marks[i]? = none := by
      rw [Array.getElem?_eq_none_iff, h.size]
      omega
    have unmet : visits s.marks i = 0 := by simp [visits, outside]
    have barren : g.children i = [] := by simp [children, inside]
    rw [unmet, if_neg inside, barren]
    exact ⟨rfl, rfl⟩

end Tallies

end Search

theorem nodup_children (g : Graph) (i : Nat) : (g.children i).Nodup :=
  (g.children_ascending i).imp Nat.ne_of_lt

/-- A search that has come to its end: it has put each node on the path once, and looked once at each
pair of a node and one that it leads to. -/
structure Search.Complete (g : Graph) (last : Search) : Prop where
  ended : last.turn? g = none
  pushed : last.pushed.Nodup
  mem_pushed : ∀ i, i ∈ last.pushed ↔ i < g.nodes.size
  inspected : last.inspected.Nodup
  mem_inspected : ∀ i j, (i, j) ∈ last.inspected ↔ g.LeadsTo i j

theorem Search.Tallies.complete {g : Graph} {last : Search} (h : Tallies g last)
    (ended : last.turn? g = none) : Complete g last := by
  have counts := h.at_end ended
  have distinct : ∀ i j, (g.children i).count j ≤ 1 :=
    fun i => List.nodup_iff_count_le_one.1 (g.nodup_children i)
  exact {
    ended
    pushed := by
      refine List.nodup_iff_count_le_one.2 fun i => ?_
      rw [(counts i 0).1]
      split <;> omega
    mem_pushed := by
      intro i
      rw [← List.count_pos_iff, (counts i 0).1]
      split <;> simp [*]
    inspected := by
      refine List.nodup_iff_count_le_one.2 fun (i, j) => ?_
      rw [(counts i j).2]
      exact distinct i j
    mem_inspected := by
      intro i j
      rw [← List.count_pos_iff, (counts i j).2, List.count_pos_iff]
      rfl }

theorem Search.Complete.length_pushed {g : Graph} {last : Search} (h : Complete g last) :
    last.pushed.length = g.nodes.size := by
  have same : last.pushed.Perm (List.range g.nodes.size) :=
    (List.perm_ext_iff_of_nodup h.pushed List.nodup_range).2 fun i => by
      rw [h.mem_pushed, List.mem_range]
  rw [same.length_eq, List.length_range]

/-- The search stops, after two turns for each node and one for each pair of a node and one that it
leads to, and every node and every pair has had its turn just once. No pair that it returns is
repeated, each closes a loop, and without them there are no loops. -/
theorem search_accounts {g : Graph} (grown : g.Grown) :
    (∃ last, Search.Turns g (2 * g.nodes.size + last.inspected.length) (.first g) last ∧
      last.Complete g ∧ last.back.reverse = g.backEdges) ∧
    g.backEdges.Nodup ∧
    (∀ i j, (i, j) ∈ g.backEdges → g.LeadsTo i j ∧ Relation.ReflTransGen g.LeadsTo j i) ∧
    ∀ i, ¬ Relation.TransGen (g.Remains g.backEdges) i i := by
  obtain ⟨n, last, turns, ended⟩ := Search.exists_turns g (.first g)
  have tallies : Search.Tallies g last :=
    turns.preserves (fun _ _ turn tallies => tallies.turn turn) (Search.tallies_first g)
  have complete := tallies.complete ended
  obtain ⟨bare, started⟩ := Search.turn?_eq_none_iff.1 ended
  have counted : n = 2 * g.nodes.size + last.inspected.length := by
    have spent := turns.length_eq
    simp only [bare, started, complete.length_pushed, Search.first, List.length_range,
      List.length_nil] at spent
    omega
  have found : last.outcome g = (Search.first g).outcome g :=
    turns.preserves (P := fun s => s.outcome g = (Search.first g).outcome g)
      (fun _ _ turn same => turn.outcome_eq.trans same) rfl
  have back : last.back.reverse = g.backEdges := by
    have whole : last.outcome g = last.back := by
      simp only [Search.outcome, bare, started, walk, List.foldl_nil]
    rw [← whole, found, Search.outcome, Search.first, walk, backEdges]
  have once : g.backEdges.Nodup := by
    rw [← back, List.nodup_reverse, List.nodup_iff_count_le_one]
    exact fun e => (tallies.back e).trans (List.nodup_iff_count_le_one.1 complete.inspected e)
  obtain ⟨closes, order, settled, all⟩ := backEdges_settle fun _ _ => grown.coherent.lt_of_leadsTo
  refine ⟨⟨last, counted ▸ turns, complete, back⟩, once, ?_, ?_⟩
  · intro i j here
    have closes := closes (i, j) here
    exact ⟨closes.leadsTo, closes.reaches⟩
  · intro i walk
    obtain ⟨_, first, _⟩ := Relation.TransGen.head'_iff.1 walk
    exact settled.no_return (all i (lt_of_leadsTo first.1)) walk

def pools : Graph :=
  (((((empty.addNode (.quest { id := "upper" })).addNode (.quest { id := "lower" })).addNode
    (.quest { id := "third" })).addEdge
    { source := 0, target := 1, kind := .outcome }).addEdge
    { source := 1, target := 0, kind := .prerequisite }).addEdge
    { source := 1, target := 2, kind := .outcome }

theorem pools_accounted : pools.Grown ∧
    (∃ last, Search.Turns pools (6 + last.inspected.length) (.first pools) last ∧
      last.Complete pools ∧ last.back.reverse = pools.backEdges) ∧
    pools.backEdges.Nodup ∧ Relation.TransGen pools.LeadsTo 0 0 ∧
    ¬ Relation.TransGen (pools.Remains pools.backEdges) 0 0 := by
  have grown : pools.Grown :=
    .addEdge _ (.addEdge _ (.addEdge _ (.addNode _ (.addNode _ (.addNode _ .empty))) (by decide)
      (by decide)) (by decide) (by decide)) (by decide) (by decide)
  obtain ⟨searched, once, _, acyclic⟩ := search_accounts grown
  have onward : pools.LeadsTo 0 1 := by
    rw [LeadsTo]
    decide
  have back : pools.LeadsTo 1 0 := by
    rw [LeadsTo]
    decide
  exact ⟨grown, searched, once, .head onward (.single back), acyclic 0⟩

end Storyline.Graph
