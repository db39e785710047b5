import Storyline.Proofs.Graph.BackEdge
import Storyline.Proofs.Validation.Severity
import Storyline.Validation.Connection

/-!
The issues that report dependency loops. Each names a node of a cycle and the edge that closes it,
and each cycle has a node that is named. One node may stand for several cycles; an issue for every
cycle is not claimed.
-/
namespace Storyline.Validation

open Storyline.Graph

section FirstPerTarget

variable {seen : List Nat} {l : List (Nat × Nat)}

theorem mem_of_mem_firstPerTarget {e : Nat × Nat} (h : e ∈ firstPerTarget seen l) :
    e ∈ l ∧ e.2 ∉ seen := by
  fun_induction firstPerTarget seen l with
  | case1 => cases h
  | case2 seen source target rest old ih => exact ⟨List.mem_cons_of_mem _ (ih h).1, (ih h).2⟩
  | case3 seen source target rest new ih =>
    rcases List.mem_cons.1 h with rfl | h
    · exact ⟨List.mem_cons_self, by simpa using new⟩
    · exact ⟨List.mem_cons_of_mem _ (ih h).1, fun mem => (ih h).2 (List.mem_cons_of_mem _ mem)⟩

theorem nodup_targets_firstPerTarget (seen : List Nat) (l : List (Nat × Nat)) :
    ((firstPerTarget seen l).map (·.2)).Nodup := by
  fun_induction firstPerTarget seen l with
  | case1 => exact .nil
  | case2 seen source target rest old ih => exact ih
  | case3 seen source target rest new ih =>
    refine List.nodup_cons.2 ⟨?_, ih⟩
    intro mem
    obtain ⟨e, he, same⟩ := List.mem_map.1 mem
    exact (mem_of_mem_firstPerTarget he).2 (same ▸ List.mem_cons_self)

theorem exists_mem_firstPerTarget {e : Nat × Nat} (he : e ∈ l) (new : e.2 ∉ seen) :
    ∃ kept ∈ firstPerTarget seen l, kept.2 = e.2 := by
  fun_induction firstPerTarget seen l with
  | case1 => cases he
  | case2 seen source target rest old ih =>
    rcases List.mem_cons.1 he with rfl | he
    · exact absurd (List.contains_iff_mem.1 old) new
    · exact ih he new
  | case3 seen source target rest _ ih =>
    rcases List.mem_cons.1 he with rfl | he
    · exact ⟨_, List.mem_cons_self, rfl⟩
    · by_cases same : e.2 = target
      · exact ⟨_, List.mem_cons_self, same.symm⟩
      · obtain ⟨kept, mem, eq⟩ := ih he (by simp [same, new])
        exact ⟨kept, List.mem_cons_of_mem _ mem, eq⟩

end FirstPerTarget

/-- An issue reports a loop at a node: it names the node and an edge that is the last of a cycle
which begins there. -/
structure ReportsLoop (g : Graph) (issue : Issue) (v : Nat) : Prop where
  kind : issue.kind = .circularDependency
  severity : issue.severity = .error
  node : ∃ n, g.nodes[v]? = some n ∧ issue.node = some n.id
  edge : ∃ e ∈ g.edges, issue.edge = some e.id ∧ e.target = v ∧ g.Closes e.source v ∧
    loopIssue? g e.source v = some issue

theorem exists_reportsLoop {g : Graph} (coherent : g.Coherent) {u v : Nat}
    (closes : g.Closes u v) : ∃ issue, loopIssue? g u v = some issue ∧ ReportsLoop g issue v := by
  obtain ⟨e, he, source, target⟩ := (coherent.mem_children_iff u v).1 closes.leadsTo
  have inside : v < g.nodes.size := target ▸ (coherent.ends_inside e he).2
  have among : e ∈ g.edgesFrom u := by
    rw [coherent.edgesFrom_eq]
    simpa [source] using he
  cases found : (g.edgesFrom u).find? (·.target = v) with
  | none => exact absurd target (by simpa using List.find?_eq_none.1 found e among)
  | some first =>
    have first_target : first.target = v := by simpa using List.find?_some found
    have first_mem := List.mem_of_find?_eq_some found
    rw [coherent.edgesFrom_eq] at first_mem
    obtain ⟨first_edge, first_source⟩ : first ∈ g.edges ∧ first.source = u := by
      simpa using first_mem
    have raised : ∃ issue, loopIssue? g u v = some issue := by
      simp [loopIssue?, inside]
    obtain ⟨issue, raised⟩ := raised
    have fields := raised
    simp only [loopIssue?, Array.getElem?_eq_getElem inside, found, Option.map_some,
      Option.some.injEq] at fields
    subst fields
    exact ⟨_, raised, {
      kind := rfl
      severity := rfl
      node := ⟨g.nodes[v], Array.getElem?_eq_getElem inside, rfl⟩
      edge := ⟨first, first_edge, rfl, first_target, first_source ▸ closes,
        first_source ▸ raised⟩ }⟩

theorem forall₂_reportsLoop {g : Graph} (coherent : g.Coherent) {pairs : List (Nat × Nat)}
    (closes : ∀ e ∈ pairs, g.Closes e.1 e.2) :
    List.Forall₂ (ReportsLoop g) (pairs.filterMap fun e => loopIssue? g e.1 e.2)
      (pairs.map (·.2)) := by
  induction pairs with
  | nil => exact .nil
  | cons e pairs ih =>
    obtain ⟨issue, raised, reports⟩ := exists_reportsLoop coherent (closes e List.mem_cons_self)
    have first : (e :: pairs).filterMap (fun e => loopIssue? g e.1 e.2) =
        issue :: pairs.filterMap fun e => loopIssue? g e.1 e.2 := List.filterMap_cons_some raised
    rw [first]
    exact .cons reports (ih fun f hf => closes f (List.mem_cons_of_mem _ hf))

/-- The issues stand for different nodes and report loops at them; every walk back to its beginning
passes one of these nodes. -/
theorem exists_places {g : Graph} (coherent : g.Coherent) :
    ∃ places : List Nat, List.Forall₂ (ReportsLoop g) (loopIssues g) places ∧ places.Nodup ∧
      ∀ c, g.IsClosedWalk c → ∃ v ∈ c, v ∈ places := by
  have inside : ∀ u v, g.LeadsTo u v → v < g.nodes.size := fun _ _ => coherent.lt_of_leadsTo
  have closes : ∀ e ∈ firstPerTarget [] g.backEdges, g.Closes e.1 e.2 := fun e he =>
    (backEdges_settle inside).1 e (mem_of_mem_firstPerTarget he).1
  have reports : List.Forall₂ (ReportsLoop g) (loopIssues g)
      ((firstPerTarget [] g.backEdges).map (·.2)) := forall₂_reportsLoop coherent closes
  refine ⟨_, reports, nodup_targets_firstPerTarget [] g.backEdges, ?_⟩
  intro c closed
  obtain ⟨e, he, _, hc⟩ := exists_backEdge_of_isClosedWalk inside closed
  obtain ⟨kept, mem, same⟩ := exists_mem_firstPerTarget he List.not_mem_nil
  exact ⟨e.2, hc, List.mem_map.2 ⟨kept, mem, same⟩⟩

theorem loopIssues_eq_nil_iff {g : Graph} (coherent : g.Coherent) :
    loopIssues g = [] ↔ ∀ c, ¬ g.IsCycle c := by
  obtain ⟨places, reports, _, passed⟩ := exists_places coherent
  constructor
  · intro none c cycle
    obtain ⟨v, _, mem⟩ := passed c cycle.1
    rw [none] at reports
    rw [List.forall₂_nil_left_iff.1 reports] at mem
    cases mem
  · intro acyclic
    cases issues : loopIssues g with
    | nil => rfl
    | cons issue rest =>
      rw [issues] at reports
      obtain ⟨v, _, report, _, _⟩ := List.forall₂_cons_left_iff.1 reports
      obtain ⟨e, _, _, _, ⟨c, cycle, _⟩, _⟩ := report.edge
      exact absurd cycle (acyclic _)

theorem loopIssues_eq_nil_iff_no_return {g : Graph} (coherent : g.Coherent) :
    loopIssues g = [] ↔ ∀ v, ¬ Relation.TransGen g.LeadsTo v v := by
  constructor
  · intro none v walk
    obtain ⟨rest, closed⟩ := (exists_isClosedWalk_iff g v).2 walk
    obtain ⟨places, reports, _, passed⟩ := exists_places coherent
    obtain ⟨w, _, mem⟩ := passed _ closed
    rw [none] at reports
    rw [List.forall₂_nil_left_iff.1 reports] at mem
    cases mem
  · intro acyclic
    rw [loopIssues_eq_nil_iff coherent]
    intro c cycle
    cases c with
    | nil => exact cycle.1
    | cons v rest => exact acyclic v ((exists_isClosedWalk_iff g v).1 ⟨rest, cycle.1⟩)

theorem allOf_loopIssues (g : Graph) : AllOf .circularDependency .error (loopIssues g) := by
  intro i hi
  obtain ⟨⟨u, v⟩, _, raised⟩ := List.mem_filterMap.1 hi
  obtain ⟨n, _, rfl⟩ := Option.map_eq_some_iff.1 raised
  exact ⟨rfl, rfl⟩

/-- The issues on dependency loops of a graph that was built up by additions stand for different
nodes. Each reports a loop at its node, and every walk back to its beginning passes one of these
nodes; so there are none just when there is no cycle. -/
theorem loopIssues_exact {g : Graph} (grown : g.Grown) :
    ∃ places : List Nat, List.Forall₂ (ReportsLoop g) (loopIssues g) places ∧ places.Nodup ∧
      (∀ c, g.IsClosedWalk c → ∃ v ∈ c, v ∈ places) ∧
      (loopIssues g = [] ↔ ∀ c, ¬ g.IsCycle c) := by
  obtain ⟨places, reports, nodup, passed⟩ := exists_places grown.coherent
  exact ⟨places, reports, nodup, passed, loopIssues_eq_nil_iff grown.coherent⟩

def knot : Graph :=
  (((empty.addNode (.quest { id := "again" })).addNode (.quest { id := "again" })).addEdge
    { source := 0, target := 1, kind := .outcome }).addEdge
    { source := 1, target := 0, kind := .prerequisite }

theorem knot_reported : knot.Grown ∧ knot.IsCycle [0, 1] ∧ loopIssues knot ≠ [] ∧
    ∃ places : List Nat, List.Forall₂ (ReportsLoop knot) (loopIssues knot) places ∧
      places.Nodup ∧ ∃ v ∈ [0, 1], v ∈ places := by
  have grown : knot.Grown :=
    .addEdge _ (.addEdge _ (.addNode _ (.addNode _ .empty)) (by decide) (by decide))
      (by decide) (by decide)
  have there : knot.LeadsTo 0 1 := by
    change 1 ∈ knot.children 0
    decide
  have back : knot.LeadsTo 1 0 := by
    change 0 ∈ knot.children 1
    decide
  have cycle : knot.IsCycle [0, 1] :=
    ⟨.cons_cons there (.cons_cons back (.singleton _)), by decide⟩
  obtain ⟨places, reports, nodup, passed, acyclic⟩ := loopIssues_exact grown
  exact ⟨grown, cycle, fun none => acyclic.1 none _ cycle, places, reports, nodup,
    passed _ cycle.1⟩

end Storyline.Validation
