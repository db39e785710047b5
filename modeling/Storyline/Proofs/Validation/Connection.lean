import Storyline.Proofs.Graph.Reachability
import Storyline.Proofs.Validation.Severity
import Storyline.Validation.Connection

/-!
The checks that look at how records hang together, dependency loops apart. Nodes without edges raise
a warning each; all else that these checks raise is an error.
-/
namespace Storyline.Validation

open Storyline.Graph

theorem allOf_orphanIssues (g : Graph) : AllOf .orphan .warning (orphanIssues g) := by
  intro i hi
  obtain ⟨n, _, rfl⟩ := List.mem_map.1 hi
  exact ⟨rfl, rfl⟩

theorem length_orphanIssues {g : Graph} (coherent : g.Coherent) :
    (orphanIssues g).length = (List.range g.nodes.size).countP (g.Edgeless ·) := by
  have numbered : g.nodes.toList.map some = (List.range g.nodes.size).map (g.nodes[·]?) := by
    apply List.ext_getElem
    · simp
    · intro i _ _
      simp_all
  have count : (g.nodes.toList.map some).countP (·.any Node.isOrphan) =
      g.nodes.toList.countP Node.isOrphan := List.countP_map
  rw [orphanIssues, List.length_map, ← List.countP_eq_length_filter, ← count, numbered,
    List.countP_map]
  apply List.countP_congr
  intro i hi
  have here := Array.getElem?_eq_getElem (List.mem_range.1 hi)
  simpa [here] using coherent.isOrphan_iff here

theorem allOf_unreachableIssues (g : Graph) :
    AllOf .unreachable .error (unreachableIssues g) := by
  intro i hi
  obtain ⟨n, _, rfl⟩ := List.mem_map.1 hi
  exact ⟨rfl, rfl⟩

theorem getD_reachable_iff {g : Graph} (coherent : g.Coherent) (i : Nat) :
    g.reachable.getD i false = true ↔
      ∃ r, g.IsEntryPoint r ∧ Relation.ReflTransGen g.LeadsTo r i := by
  rw [← coherent.reachable_iff, Array.getD_eq_getD_getElem?]
  cases g.reachable[i]? <;> simp

theorem unreachableIssues_eq_nil_iff {g : Graph} (coherent : g.Coherent) :
    unreachableIssues g = [] ↔ ∀ i < g.nodes.size, ¬ g.Edgeless i →
      ∃ r, g.IsEntryPoint r ∧ Relation.ReflTransGen g.LeadsTo r i := by
  simp only [unreachableIssues, List.map_eq_nil_iff, List.filter_eq_nil_iff, Prod.forall,
    mem_numbered_iff, ← getD_reachable_iff coherent]
  constructor
  · intro h i inside edges
    have here := Array.getElem?_eq_getElem inside
    rw [← coherent.isOrphan_iff here] at edges
    simpa [edges] using h i _ here
  · intro h i n here
    by_cases alone : n.isOrphan = true
    · simp [alone]
    · rw [coherent.isOrphan_iff here] at alone
      simp [h i (Array.getElem?_eq_some_iff.1 here).1 alone]

section Quests

variable (g : Graph) (i : Nat) (q : Quest)

theorem allOf_brokenChainIssues : AllOf .brokenChain .error (brokenChainIssues g i q) := by
  intro issue hi
  rw [brokenChainIssues] at hi
  split at hi
  · cases hi
  · cases List.mem_singleton.1 hi
    exact ⟨rfl, rfl⟩

theorem countP_edgesTo_pos_iff (coherent : g.Coherent) (kind : EdgeKind) :
    0 < (g.edgesTo i).countP (·.kind = kind) ↔
      ∃ e ∈ g.edges, e.target = i ∧ e.kind = kind := by
  rw [List.countP_pos_iff, coherent.edgesTo_eq]
  simp [and_assoc]

theorem brokenChainIssues_eq_nil_iff (coherent : g.Coherent) : brokenChainIssues g i q = [] ↔
    (q.prerequisiteQuests ≠ [] → ∃ e ∈ g.edges, e.target = i ∧ e.kind = .prerequisite) := by
  rw [← countP_edgesTo_pos_iff g i coherent, ← List.length_pos_iff, brokenChainIssues]
  split
  · simp only [true_iff]
    omega
  · simp only [List.cons_ne_nil, false_iff]
    omega

theorem allOf_missingPrerequisiteIssues :
    AllOf .missingPrerequisites .error (missingPrerequisiteIssues g q) := by
  intro i hi
  obtain ⟨required, _, rfl⟩ := List.mem_map.1 hi
  exact ⟨rfl, rfl⟩

/-- The quest that an identifier points at: the first record that has it, if this is a quest. -/
def IsQuestId (g : Graph) (id : RecordId) : Prop :=
  ∃ found, g.entries.find? (·.id = id) = some (.quest found)

theorem isSome_findKind?_quest_iff (coherent : g.Coherent) (id : RecordId) :
    (g.findKind? id .quest).isSome = true ↔ IsQuestId g id := by
  simp only [Option.isSome_iff_exists, findKind?_quest_eq_some_iff, IsQuestId, coherent.find?_eq,
    List.find?_eq_bind_findIdx?_getElem?, Option.bind_eq_some_iff]
  constructor
  · rintro ⟨i, first, q, here⟩
    exact ⟨q, i, first, here⟩
  · rintro ⟨q, i, first, here⟩
    exact ⟨i, first, q, here⟩

theorem missingPrerequisiteIssues_eq_nil_iff (coherent : g.Coherent) :
    missingPrerequisiteIssues g q = [] ↔ ∀ id ∈ q.prerequisiteQuests, IsQuestId g id := by
  rw [missingPrerequisiteIssues, List.map_eq_nil_iff, List.filter_eq_nil_iff]
  refine forall₂_congr fun id _ => ?_
  rw [← isSome_findKind?_quest_iff g coherent]
  cases g.findKind? id .quest <;> simp

end Quests

end Storyline.Validation
