import Storyline.Proofs.Graph.Lookup
import Storyline.Proofs.Validation.Part

/-!
The report on one quest of a graph, beside the report on the whole graph. Where identifiers are
distinct, the one has what the other says about the quest, kind by kind and in the same order. What
the whole graph reports of nodes without edges, unreachable nodes and loops is not repeated.
-/
namespace Storyline

open Validation

namespace Validation

def questIssues (g : Graph) (node : Nat) (q : Quest) : List Issue :=
  structureIssues {} q ++ questConditionIssues q ++ missingPrerequisiteIssues g q
    ++ brokenChainIssues g node q

def questPartOf (g : Graph) (node : Nat) (q : Quest) : IssueKind → List Issue
  | .brokenChain => brokenChainIssues g node q
  | .missingPrerequisites => missingPrerequisiteIssues g q
  | .invalidCondition => questConditionIssues q
  | .invalidStructure => structureIssues {} q
  | .orphan | .unreachable | .circularDependency => []

theorem filter_questIssues (g : Graph) (node : Nat) (q : Quest) (kind : IssueKind) :
    (questIssues g node q).filter (·.kind = kind) = questPartOf g node q kind := by
  have structural := filter_kind_eq
    (fun i (hi : i ∈ structureIssues {} q) => kind_of_mem_structureIssues hi) kind
  have conditions := filter_kind_eq
    (fun i hi => (allOf_entryConditionIssues (.quest q) i hi).1) kind
  have missing := filter_kind_eq (fun i hi => (allOf_missingPrerequisiteIssues g q i hi).1) kind
  have broken := filter_kind_eq (fun i hi => (allOf_brokenChainIssues g node q i hi).1) kind
  change (questConditionIssues q).filter _ = _ at conditions
  simp only [questIssues, List.filter_append, structural, conditions, missing, broken]
  cases kind <;> simp [questPartOf, entryConditionIssues]

def questKinds : List IssueKind :=
  [.brokenChain, .missingPrerequisites, .invalidCondition, .invalidStructure]

theorem questPartOf_eq_nil {g : Graph} {node : Nat} {q : Quest} {kind : IssueKind}
    (other : kind ∉ questKinds) : questPartOf g node q kind = [] := by
  cases kind with
  | orphan | unreachable | circularDependency => rfl
  | brokenChain | missingPrerequisites | invalidCondition | invalidStructure =>
    exact absurd (by decide) other

section Distinct

variable {g : Graph} {node : Nat} {q : Quest}

/-- What the whole graph raises on a quest is what the quest raises. -/
theorem filter_node_partOf (distinct : g.DistinctIds)
    (here : g.entries[node]? = some (.quest q)) {kind : IssueKind} (own : kind ∈ questKinds) :
    (partOf g {} kind).filter (·.node = some q.id) = questPartOf g node q kind := by
  have quest : (node, q) ∈ g.quests := Graph.mem_quests_iff.2 here
  have among {f : Nat × Quest → List Issue} (on : ∀ e, AllOn e.2.id (f e)) :
      (g.quests.flatMap f).filter (·.node = some q.id) = f (node, q) := by
    have own := filter_node_flatMap on distinct.nodup_quests quest
    exact own
  cases kind with
  | brokenChain => exact among fun e => allOn_brokenChainIssues g e.1 e.2
  | missingPrerequisites => exact among fun e => allOn_missingPrerequisiteIssues g e.2
  | invalidCondition =>
    have own := filter_node_flatMap allOn_entryConditionIssues distinct (List.mem_of_getElem? here)
    exact own
  | invalidStructure => exact among fun e => allOn_structureIssues {} e.2
  | orphan | unreachable | circularDependency => exact absurd own (by decide)

theorem filter_graphIssues_quest (distinct : g.DistinctIds)
    (here : g.entries[node]? = some (.quest q)) {kind : IssueKind} (own : kind ∈ questKinds) :
    (graphIssues g {}).filter (fun e => e.kind = kind ∧ e.node = some q.id) =
      (questIssues g node q).filter (·.kind = kind) := by
  rw [filter_questIssues, ← filter_node_partOf distinct here own, ← filter_graphIssues,
    List.filter_filter]
  congr 1
  funext e
  rw [← Bool.decide_and, decide_eq_decide, and_comm]

theorem mem_graphIssues_of_mem_questIssues (distinct : g.DistinctIds)
    (here : g.entries[node]? = some (.quest q)) {i : Issue} (hi : i ∈ questIssues g node q) :
    i ∈ graphIssues g {} := by
  have part : i ∈ (questIssues g node q).filter (·.kind = i.kind) := by simpa using hi
  have own : i.kind ∈ questKinds := by
    by_contra other
    rw [filter_questIssues, questPartOf_eq_nil other] at part
    cases part
  rw [← filter_graphIssues_quest distinct here own] at part
  exact List.mem_of_mem_filter part

end Distinct

end Validation

namespace Graph

variable {g : Graph} {i : Nat} {q : Quest} {id : RecordId}

theorem validateQuest_eq_ok (found : g.findKind? id .quest = some i)
    (here : g.entries[i]? = some (.quest q)) : g.validateQuest id =
      .ok (.ofIssues (questIssues g i q) (.ofQuest (g.edgesAround i).length) {}) := by
  have first := (findKind?_quest_eq_some_iff.1 found).1
  rw [getElem?_entries] at here
  obtain ⟨n, node, entry⟩ := Option.map_eq_some_iff.1 here
  simp only [validateQuest, first, Option.bind_some, node, entry, Entry.quest?, Option.map_some,
    questIssues]

theorem validateQuest_eq_error_iff :
    g.validateQuest id = .error (.quest id) ↔ g.findKind? id .quest = none := by
  cases found : g.findKind? id .quest with
  | some i =>
    obtain ⟨_, q, here⟩ := findKind?_quest_eq_some_iff.1 found
    simp [validateQuest_eq_ok found here]
  | none =>
    have nobody : (g.find? id).bind (fun i => g.nodes[i]?.bind fun n =>
        n.entry.quest?.map (i, ·)) = none := by
      by_contra somebody
      obtain ⟨⟨j, q⟩, quest⟩ := Option.ne_none_iff_exists'.1 somebody
      obtain ⟨i, first, quest⟩ := Option.bind_eq_some_iff.1 quest
      obtain ⟨n, node, quest⟩ := Option.bind_eq_some_iff.1 quest
      obtain ⟨q, entry, _⟩ := Option.map_eq_some_iff.1 quest
      have here : g.entries[i]? = some (.quest q) := by
        rw [getElem?_entries, node, Option.map_some, Entry.eq_of_quest? entry]
      rw [findKind?_quest_eq_some_iff.2 ⟨first, q, here⟩] at found
      cases found
    simp [validateQuest, nobody]

/-- The report on a quest has, of each kind that a quest raises, just the errors and the warnings
that the report on the graph has on that quest, in their order; where the graph is valid, so is the
quest. -/
theorem validateQuest_agrees (grown : g.Grown) (distinct : g.DistinctIds)
    (here : g.entries[i]? = some (.quest q)) : ∃ r, g.validateQuest q.id = .ok r ∧
      (∀ kind ∈ questKinds,
        r.errors.filter (·.kind = kind) =
          g.validate.errors.filter (fun e => e.kind = kind ∧ e.node = some q.id) ∧
        r.warnings.filter (·.kind = kind) =
          g.validate.warnings.filter (fun e => e.kind = kind ∧ e.node = some q.id)) ∧
      (g.validate.isValid = true → r.isValid = true) := by
  have found : g.findKind? q.id .quest = some i :=
    (distinct.findKind?_eq_some_iff grown.coherent).2 ⟨_, here, rfl, rfl⟩
  refine ⟨_, validateQuest_eq_ok found here, ?_, ?_⟩
  · intro kind own
    have part := filter_graphIssues_quest distinct here own
    have parted (test : Issue → Bool) :
        ((questIssues g i q).filter test).filter (·.kind = kind) =
          ((graphIssues g {}).filter test).filter
            (fun e => e.kind = kind ∧ e.node = some q.id) := by
      rw [List.filter_comm, ← part, List.filter_comm]
    rw [validate, errors_ofIssues, errors_ofIssues,
      warnings_ofIssues, warnings_ofIssues]
    exact ⟨parted _, parted _⟩
  · intro valid
    rw [validate, isValid_ofIssues_iff] at valid
    rw [isValid_ofIssues_iff]
    intro issue hi
    exact valid issue (mem_graphIssues_of_mem_questIssues distinct here hi)

def barred : Graph :=
  (empty.addNode (.storyArc { id := "arc" })).addNode
    (.quest { id := "toll", title := "The toll", prerequisites := [.questCompleted "gate"] })

theorem toll_agrees : barred.Grown ∧ barred.DistinctIds ∧
    ∃ r, barred.validateQuest "toll" = .ok r ∧
      (r.errors.filter (·.kind = .missingPrerequisites)).length = 1 ∧
      r.errors.filter (·.kind = .missingPrerequisites) =
        barred.validate.errors.filter
          (fun e => e.kind = .missingPrerequisites ∧ e.node = some "toll") := by
  have grown : barred.Grown := .addNode _ (.addNode _ .empty)
  have distinct : barred.DistinctIds := by
    rw [DistinctIds, barred, entries_addNode, entries_addNode]
    decide
  obtain ⟨r, found, agree, _⟩ := validateQuest_agrees grown distinct (i := 1) rfl
  obtain ⟨errors, _⟩ := agree .missingPrerequisites (by decide)
  refine ⟨grown, distinct, r, found, ?_, errors⟩
  cases found
  rfl

end Graph

end Storyline
