import Storyline.Proofs.Graph.Queue
import Storyline.Proofs.Validation.Connection

/-!
Nodes that no entry point leads to and nodes without edges. The one check reports those of the first
sort that have edges, the other warns of the second sort, so no node is reported by both and every
node that neither reports can be reached. A node without edges may be an entry point itself.
-/
namespace Storyline

def Graph.IsReached (g : Graph) (i : Nat) : Prop :=
  ∃ r, g.IsEntryPoint r ∧ Relation.ReflTransGen g.LeadsTo r i

namespace Validation

open Storyline.Graph

structure Flags (g : Graph) (kind : IssueKind) (severity : Severity) (issue : Issue) (i : Nat) :
    Prop where
  kind : issue.kind = kind
  severity : issue.severity = severity
  node : ∃ n, g.nodes[i]? = some n ∧ issue.node = some n.id

variable {g : Graph}

theorem exists_flagged (raise : Node → Issue) {kind : IssueKind} {severity : Severity}
    (fields : ∀ n, (raise n).kind = kind ∧ (raise n).severity = severity ∧
      (raise n).node = some n.id) (test : Nat × Node → Bool) (IsOne : Nat → Prop)
    (exact : ∀ i n, g.nodes[i]? = some n → (test (i, n) = true ↔ IsOne i)) :
    ∃ places : List Nat, places.Pairwise (· < ·) ∧
      (∀ i, i ∈ places ↔ i < g.nodes.size ∧ IsOne i) ∧
      List.Forall₂ (Flags g kind severity) ((g.numbered.filter test).map (raise ·.2)) places := by
  refine ⟨_, ascending_of_numbered g test, ?_, ?_⟩
  · intro i
    constructor
    · intro hi
      obtain ⟨⟨k, n⟩, mem, rfl⟩ := List.mem_map.1 hi
      obtain ⟨numbered, passes⟩ := List.mem_filter.1 mem
      have here := mem_numbered_iff.1 numbered
      exact ⟨(Array.getElem?_eq_some_iff.1 here).1, (exact k n here).1 passes⟩
    · rintro ⟨inside, one⟩
      have here := Array.getElem?_eq_getElem inside
      have numbered := List.mem_filter.2 ⟨mem_numbered_iff.2 here, (exact i _ here).2 one⟩
      exact List.mem_map.2 ⟨_, numbered, rfl⟩
  · rw [List.forall₂_map_left_iff, List.forall₂_map_right_iff, List.forall₂_same]
    rintro ⟨i, n⟩ mem
    obtain ⟨ofKind, ofSeverity, on⟩ := fields n
    exact ⟨ofKind, ofSeverity, n, mem_numbered_iff.1 (List.mem_of_mem_filter mem), on⟩

theorem orphanIssues_eq (g : Graph) :
    orphanIssues g = (g.numbered.filter (·.2.isOrphan)).map (orphanIssue ·.2) := by
  rw [orphanIssues, ← map_snd_numbered, List.filter_map, List.map_map]
  rfl

theorem exists_alone (coherent : g.Coherent) : ∃ alone : List Nat, alone.Pairwise (· < ·) ∧
    (∀ i, i ∈ alone ↔ i < g.nodes.size ∧ g.Edgeless i) ∧
    List.Forall₂ (Flags g .orphan .warning) (orphanIssues g) alone := by
  rw [orphanIssues_eq]
  exact exists_flagged orphanIssue (fun _ => ⟨rfl, rfl, rfl⟩) _ g.Edgeless
    fun _ _ here => coherent.isOrphan_iff here

theorem exists_lost (coherent : g.Coherent) : ∃ lost : List Nat, lost.Pairwise (· < ·) ∧
    (∀ i, i ∈ lost ↔ i < g.nodes.size ∧ ¬ g.IsReached i ∧ ¬ g.Edgeless i) ∧
    List.Forall₂ (Flags g .unreachable .error) (unreachableIssues g) lost := by
  apply exists_flagged unreachableIssue (fun _ => ⟨rfl, rfl, rfl⟩) _
    (fun i => ¬ g.IsReached i ∧ ¬ g.Edgeless i)
  intro i n here
  rw [Bool.and_eq_true, Bool.not_eq_true', Bool.not_eq_true', ← Bool.not_eq_true,
    ← Bool.not_eq_true, getD_reachable_iff coherent, coherent.isOrphan_iff here]
  rfl

/-- In a graph that was built up by additions the search marks just what an entry point leads to,
and while it runs no node enters its queue twice. The nodes that are reported as unreachable are
those that have edges but are not reached, and those that are warned of are those without edges,
each once and in order. So no node is in both lists, and what is in neither is reached. -/
theorem strays_exact (grown : g.Grown) :
    g.reachable.size = g.nodes.size ∧
    (∀ i, g.reachable[i]? = some true ↔ g.IsReached i) ∧
    (∃ entered,
      g.Enters (reach (.replicate g.nodes.size false) g.roots).1 g.roots entered g.reachable ∧
      (g.roots ++ entered).Nodup) ∧
    ∃ lost alone : List Nat,
      lost.Pairwise (· < ·) ∧
      (∀ i, i ∈ lost ↔ i < g.nodes.size ∧ ¬ g.IsReached i ∧ ¬ g.Edgeless i) ∧
      List.Forall₂ (Flags g .unreachable .error) (unreachableIssues g) lost ∧
      alone.Pairwise (· < ·) ∧
      (∀ i, i ∈ alone ↔ i < g.nodes.size ∧ g.Edgeless i) ∧
      List.Forall₂ (Flags g .orphan .warning) (orphanIssues g) alone ∧
      (∀ i, ¬ (i ∈ lost ∧ i ∈ alone)) ∧
      ∀ i < g.nodes.size, i ∉ lost → i ∉ alone → g.IsReached i := by
  have coherent := grown.coherent
  obtain ⟨entered, enters, nodup, _⟩ := exists_entered g
  obtain ⟨lost, lostAscends, mem_lost, lostFlags⟩ := exists_lost coherent
  obtain ⟨alone, aloneAscends, mem_alone, aloneFlags⟩ := exists_alone coherent
  refine ⟨g.size_reachable, coherent.reachable_iff, ⟨entered, enters, nodup⟩, lost, alone,
    lostAscends, mem_lost, lostFlags, aloneAscends, mem_alone, aloneFlags, ?_, ?_⟩
  · rintro i ⟨hlost, halone⟩
    exact ((mem_lost i).1 hlost).2.2 ((mem_alone i).1 halone).2
  · intro i inside notLost notAlone
    by_contra unreached
    apply notLost
    exact (mem_lost i).2 ⟨inside, unreached, fun none => notAlone ((mem_alone i).2 ⟨inside, none⟩)⟩

/-- An arc with a road that leads to itself, an isle that leads to itself and to another arc of the
same identifier, and a murmur. -/
def coast : Graph :=
  ((((((((empty.addNode (.storyArc { id := "arc" })).addNode (.quest { id := "road" })).addNode
    (.quest { id := "isle" })).addNode (.storyArc { id := "arc" })).addNode
    (.dialogue { id := "murmur" })).addEdge
    { source := 0, target := 1, kind := .belongsTo }).addEdge
    { source := 1, target := 1, kind := .outcome }).addEdge
    { source := 2, target := 2, kind := .outcome }).addEdge
    { source := 2, target := 3, kind := .outcome }

theorem coast_strays : coast.Grown ∧
    (unreachableIssues coast).map (·.node) = [some "isle", some "arc"] ∧
    (orphanIssues coast).map (·.node) = [some "murmur"] ∧
    ∃ lost alone : List Nat, List.Forall₂ (Flags coast .unreachable .error)
      (unreachableIssues coast) lost ∧ 2 ∈ lost ∧ 3 ∈ lost ∧ 4 ∈ alone ∧ 4 ∉ lost ∧
      coast.IsReached 1 := by
  have grown : coast.Grown :=
    .addEdge _ (.addEdge _ (.addEdge _ (.addEdge _ (.addNode _ (.addNode _ (.addNode _ (.addNode _
      (.addNode _ .empty))))) (by decide) (by decide)) (by decide) (by decide)) (by decide)
      (by decide)) (by decide) (by decide)
  obtain ⟨_, marked, _, lost, alone, _, mem_lost, flags, _, mem_alone, _, apart, _⟩ :=
    strays_exact grown
  have isle : ¬ coast.IsReached 2 := (marked 2).not.1 (by decide +kernel)
  have farArc : ¬ coast.IsReached 3 := (marked 3).not.1 (by decide +kernel)
  have murmur : 4 ∈ alone := (mem_alone 4).2 ⟨by decide, by decide⟩
  exact ⟨grown, by decide +kernel, by decide +kernel, lost, alone, flags,
    (mem_lost 2).2 ⟨by decide, isle, by decide⟩, (mem_lost 3).2 ⟨by decide, farArc, by decide⟩,
    murmur, fun both => apart 4 ⟨both, murmur⟩, (marked 1).1 (by decide +kernel)⟩

end Validation

end Storyline
