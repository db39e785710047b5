import Storyline.Proofs.Number.Classes
import Storyline.Proofs.Validation.Part

/-!
The report on a graph against the issues that the checks raise. It parts them by severity and counts
them by kind, so no issue is lost and none stands twice. Each names a node of the graph, and an edge
of the graph if any. Of nodes with one identifier an issue does not tell which it is on.
-/
namespace Storyline.Validation

open Storyline.Graph

/-- The first list with its members dealt out to two others, in their order. -/
inductive Parted {α : Type} : List α → List α → List α → Prop where
  | nil : Parted [] [] []
  | left {a : α} {l xs ys : List α} : Parted l xs ys → Parted (a :: l) (a :: xs) ys
  | right {a : α} {l xs ys : List α} : Parted l xs ys → Parted (a :: l) xs (a :: ys)

theorem parted_filter {α : Type} (test : α → Bool) (l : List α) :
    Parted l (l.filter test) (l.filter fun a => !test a) := by
  induction l with
  | nil => exact .nil
  | cons a l ih =>
    cases passes : test a with
    | true => simpa [passes] using ih.left
    | false => simpa [passes] using ih.right

theorem Parted.perm {α : Type} {l xs ys : List α} (h : Parted l xs ys) : (xs ++ ys).Perm l := by
  induction h with
  | nil => exact .nil
  | left _ ih => exact ih.cons _
  | right _ ih => exact List.perm_middle.trans (ih.cons _)

/-! Where an issue stands. -/

variable {g : Graph} {policy : ValidationPolicy} {i : Issue}

theorem mem_edges_of_mem_edgesFrom {n : Nat} {e : Edge} (he : e ∈ g.edgesFrom n) : e ∈ g.edges := by
  obtain ⟨k, _, here⟩ := List.mem_filterMap.1 he
  exact Array.mem_of_getElem? here

theorem id_mem_entries {n : Node} (hn : n ∈ g.nodes.toList) : ∃ e ∈ g.entries, e.id = n.id :=
  ⟨n.entry, List.mem_map_of_mem hn, rfl⟩

theorem quest_mem_entries {n : Nat} {q : Quest} (hq : (n, q) ∈ g.quests) :
    ∃ e ∈ g.entries, e.id = q.id :=
  ⟨.quest q, List.mem_of_getElem? (mem_quests_iff.1 hq), rfl⟩

theorem exists_loop_of_mem (hi : i ∈ loopIssues g) : ∃ source target n,
    g.nodes[target]? = some n ∧ i.node = some n.id ∧
      i.edge = ((g.edgesFrom source).find? (·.target = target)).map (·.id) := by
  obtain ⟨⟨source, target⟩, _, raised⟩ := List.mem_filterMap.1 hi
  obtain ⟨n, here, rfl⟩ := Option.map_eq_some_iff.1 raised
  exact ⟨source, target, n, here, rfl, rfl⟩

theorem exists_entry_of_mem (hi : i ∈ graphIssues g policy) :
    ∃ e ∈ g.entries, i.node = some e.id := by
  suffices placed : ∃ id, i.node = some id ∧ ∃ e ∈ g.entries, e.id = id by
    obtain ⟨_, named, e, he, rfl⟩ := placed
    exact ⟨e, he, named⟩
  have part : i ∈ partOf g policy i.kind := mem_partOf_iff.2 ⟨hi, rfl⟩
  have quests {f : Nat × Quest → List Issue} (on : ∀ e, AllOn e.2.id (f e))
      (hi : i ∈ g.quests.flatMap f) : ∃ id, i.node = some id ∧ ∃ e ∈ g.entries, e.id = id := by
    obtain ⟨⟨n, q⟩, hq, raised⟩ := List.mem_flatMap.1 hi
    exact ⟨q.id, on (n, q) i raised, quest_mem_entries hq⟩
  cases kind : i.kind with
  | orphan =>
    rw [kind] at part
    obtain ⟨n, hn, rfl⟩ := List.mem_map.1 part
    exact ⟨n.id, rfl, id_mem_entries (List.mem_of_mem_filter hn)⟩
  | unreachable =>
    rw [kind] at part
    obtain ⟨⟨k, n⟩, hn, rfl⟩ := List.mem_map.1 part
    have numbered := mem_numbered_iff.1 (List.mem_of_mem_filter hn)
    exact ⟨n.id, rfl, id_mem_entries (Array.mem_toList_iff.2 (Array.mem_of_getElem? numbered))⟩
  | circularDependency =>
    rw [kind] at part
    obtain ⟨_, _, n, here, named, _⟩ := exists_loop_of_mem part
    exact ⟨n.id, named, id_mem_entries (Array.mem_toList_iff.2 (Array.mem_of_getElem? here))⟩
  | invalidCondition =>
    rw [kind] at part
    obtain ⟨e, he, raised⟩ := List.mem_flatMap.1 part
    exact ⟨e.id, allOn_entryConditionIssues e i raised, e, he, rfl⟩
  | brokenChain =>
    rw [kind] at part
    exact quests (fun e => allOn_brokenChainIssues g e.1 e.2) part
  | missingPrerequisites =>
    rw [kind] at part
    exact quests (fun e => allOn_missingPrerequisiteIssues g e.2) part
  | invalidStructure =>
    rw [kind] at part
    exact quests (fun e => allOn_structureIssues policy e.2) part

theorem edge_of_mem_structureIssues {q : Quest} (hi : i ∈ structureIssues policy q) :
    i.edge = none := by
  rcases mem_structureIssues_cases hi with ⟨_, _, rfl⟩ | hi
  · rfl
  · rw [sumIssues] at hi
    split at hi
    · cases List.mem_singleton.1 hi
      rfl
    · cases hi

theorem edge_of_mem_brokenChainIssues {n : Nat} {q : Quest} (hi : i ∈ brokenChainIssues g n q) :
    i.edge = none := by
  rw [brokenChainIssues] at hi
  split at hi
  · cases hi
  · cases List.mem_singleton.1 hi
    rfl

theorem edge_of_mem_entryConditionIssues {e : Entry} (hi : i ∈ entryConditionIssues e) :
    i.edge = none := by
  have listed {owner : RecordId} {place : String} {cs : List AuthoredCondition}
      (hi : i ∈ conditionListIssues owner place cs) : i.edge = none :=
    (fields_of_mem_conditionListIssues hi).2.2.2
  cases e with
  | storyArc a => cases hi
  | quest q =>
    rcases List.mem_append.1 hi with hi | hi
    · exact listed hi
    · obtain ⟨_, _, hi⟩ := List.mem_flatMap.1 hi
      exact listed hi
  | dialogue d => exact listed hi

theorem edge_of_mem_partOf {kind : IssueKind} (other : kind ≠ .circularDependency)
    (hi : i ∈ partOf g policy kind) : i.edge = none := by
  cases kind with
  | circularDependency => exact absurd rfl other
  | orphan =>
    obtain ⟨_, _, rfl⟩ := List.mem_map.1 hi
    rfl
  | unreachable =>
    obtain ⟨_, _, rfl⟩ := List.mem_map.1 hi
    rfl
  | brokenChain =>
    obtain ⟨_, _, raised⟩ := List.mem_flatMap.1 hi
    exact edge_of_mem_brokenChainIssues raised
  | invalidCondition =>
    obtain ⟨_, _, raised⟩ := List.mem_flatMap.1 hi
    exact edge_of_mem_entryConditionIssues raised
  | missingPrerequisites =>
    obtain ⟨_, _, raised⟩ := List.mem_flatMap.1 hi
    obtain ⟨_, _, rfl⟩ := List.mem_map.1 raised
    rfl
  | invalidStructure =>
    obtain ⟨_, _, raised⟩ := List.mem_flatMap.1 hi
    exact edge_of_mem_structureIssues raised

/-- Only a loop is on an edge: the first one from its source to the node where it closes. -/
theorem exists_edge_of_mem (hi : i ∈ graphIssues g policy) {id : String} (named : i.edge = some id) :
    ∃ e ∈ g.edges, e.id = id := by
  have part : i ∈ partOf g policy i.kind := mem_partOf_iff.2 ⟨hi, rfl⟩
  by_cases loop : i.kind = .circularDependency
  · rw [loop] at part
    obtain ⟨source, target, _, _, _, first⟩ := exists_loop_of_mem part
    obtain ⟨e, found, rfl⟩ := Option.map_eq_some_iff.1 (first.symm.trans named)
    exact ⟨e, mem_edges_of_mem_edgesFrom (List.mem_of_find?_eq_some found), rfl⟩
  · rw [edge_of_mem_partOf loop part] at named
    cases named

/-! Which issues are warnings. -/

theorem isError_iff_of_mem_partOf {kind : IssueKind} (other : kind ≠ .invalidStructure)
    (hi : i ∈ partOf g policy kind) : i.isError = true ↔ kind ≠ .orphan := by
  have error (severity : i.severity = .error) : i.isError = true := by simp [Issue.isError, severity]
  cases kind with
  | invalidStructure => exact absurd rfl other
  | orphan => simp [Issue.isError, (allOf_orphanIssues g i hi).2]
  | unreachable => simp [error (allOf_unreachableIssues g i hi).2]
  | circularDependency => simp [error (allOf_loopIssues g i hi).2]
  | brokenChain =>
    obtain ⟨e, _, raised⟩ := List.mem_flatMap.1 hi
    simp [error (allOf_brokenChainIssues g e.1 e.2 i raised).2]
  | invalidCondition =>
    obtain ⟨e, _, raised⟩ := List.mem_flatMap.1 hi
    simp [error (allOf_entryConditionIssues e i raised).2]
  | missingPrerequisites =>
    obtain ⟨e, _, raised⟩ := List.mem_flatMap.1 hi
    simp [error (allOf_missingPrerequisiteIssues g e.2 i raised).2]

/-- Each quest whose probabilities miss 100 has one warning, and no other has one. -/
theorem forall₂_warnings_structureIssues (policy : ValidationPolicy) (quests : List (Nat × Quest)) :
    List.Forall₂ (fun i e => sumIssues policy e.2 = [i])
      ((quests.flatMap fun e => structureIssues policy e.2).filter fun i => !i.isError)
      (quests.filter fun e => deviates policy e.2) := by
  induction quests with
  | nil => exact .nil
  | cons e quests ih =>
    rw [List.flatMap_cons, List.filter_append, warnings_structureIssues, List.filter_cons]
    by_cases off : deviates policy e.2 = true
    · obtain ⟨i, one⟩ := exists_sumIssues_eq off
      rw [if_pos off, if_pos off, one]
      exact .cons one ih
    · rw [if_neg off, if_neg off, List.nil_append]
      exact ih

/-! Counts. -/

theorem mem_allKinds (kind : IssueKind) : kind ∈ IssueKind.all := by cases kind <;> decide

theorem mem_countKinds_iff {issues : List Issue} {kind : IssueKind} {n : Nat} :
    (kind, n) ∈ countKinds issues ↔ n = issues.countP (·.kind = kind) ∧ n ≠ 0 := by
  refine (Classes.mem_table_iff (fun k => issues.countP (·.kind = k)) id).trans ?_
  constructor
  · rintro ⟨_, rfl, occurs⟩
    exact ⟨rfl, occurs⟩
  · rintro ⟨rfl, occurs⟩
    exact ⟨mem_allKinds kind, rfl, occurs⟩

theorem nodup_keys_countKinds (issues : List Issue) : ((countKinds issues).map (·.1)).Nodup :=
  Classes.nodup_keys_table (fun k => issues.countP (·.kind = k)) id (by decide)

theorem byKind_ofIssues (issues : List Issue) (s : ValidationSummary) (p : ValidationPolicy) :
    (ValidationReport.ofIssues issues s p).summary.byKind =
      countKinds (ValidationReport.ofIssues issues s p).issues := rfl

theorem sum_countKinds (issues : List Issue) :
    ((countKinds issues).map (·.2)).sum = issues.length := by
  rw [← Classes.sum_countP (by decide) Issue.kind fun i _ => mem_allKinds i.kind]
  exact Classes.sum_table _ id

theorem sum_countKind (g : Graph) :
    g.countKind .storyArc + g.countKind .quest + g.countKind .dialogue = g.nodes.size := by
  have known : ∀ n ∈ g.nodes.toList, n.kind ∈ [NodeKind.storyArc, .quest, .dialogue] := by
    intro n _
    cases n.kind <;> decide
  have total := Classes.sum_countP (by decide) Node.kind known
  simpa [Graph.countKind, Nat.add_assoc] using total

/-! The report. -/

structure Faithful (g : Graph) (policy : ValidationPolicy) (r : ValidationReport) : Prop where
  parted : Parted (graphIssues g policy) r.errors r.warnings
  errors : ∀ i ∈ r.errors, i.severity = .error ∧ i.kind ≠ .orphan
  warnings : ∀ i ∈ r.warnings,
    i.severity = .warning ∧ (i.kind = .orphan ∨ i.kind = .invalidStructure)
  sums : List.Forall₂ (fun i e => sumIssues policy e.2 = [i])
    (r.warnings.filter (·.kind = .invalidStructure)) (g.quests.filter fun e => deviates policy e.2)
  onNode : ∀ i ∈ r.issues, ∃ e ∈ g.entries, i.node = some e.id
  onEdge : ∀ i ∈ r.issues, ∀ id, i.edge = some id → ∃ e ∈ g.edges, e.id = id
  byKind : ∀ kind n, (kind, n) ∈ r.summary.byKind ↔
    n = (graphIssues g policy).countP (·.kind = kind) ∧ n ≠ 0
  kinds : (r.summary.byKind.map (·.1)).Nodup
  counts : (r.summary.byKind.map (·.2)).sum = r.summary.errorCount + r.summary.warningCount
  errorCount : r.summary.errorCount = r.errors.length
  warningCount : r.summary.warningCount = r.warnings.length
  nodes : r.summary.storyArcs + r.summary.quests + r.summary.dialogues = r.summary.totalNodes
  totalNodes : r.summary.totalNodes = g.nodes.size

end Storyline.Validation

namespace Storyline

open Validation

/-- The report on a graph tells of each issue that the checks raise, once and in their order. The
graph need not be one that additions build. -/
theorem Graph.faithful_validate (g : Graph) (policy : ValidationPolicy) :
    Faithful g policy (g.validate policy) := by
  have parted : Parted (graphIssues g policy) (g.validate policy).errors
      (g.validate policy).warnings := parted_filter _ _
  have told {i : Issue} (hi : i ∈ (g.validate policy).issues) : i ∈ graphIssues g policy :=
    parted.perm.mem_iff.1 hi
  have part {i : Issue} (hi : i ∈ graphIssues g policy) : i ∈ partOf g policy i.kind :=
    mem_partOf_iff.2 ⟨hi, rfl⟩
  have byKind : (g.validate policy).summary.byKind = countKinds (g.validate policy).issues :=
    byKind_ofIssues ..
  exact {
    parted
    errors := by
      intro i hi
      obtain ⟨raised, error⟩ := List.mem_filter.1 hi
      refine ⟨of_decide_eq_true error, ?_⟩
      intro orphan
      exact (isError_iff_of_mem_partOf (by simp [orphan]) (part raised)).1 error orphan
    warnings := by
      intro i hi
      obtain ⟨raised, warning⟩ := List.mem_filter.1 hi
      constructor
      · cases severity : i.severity with
        | error => simp [Issue.isError, severity] at warning
        | warning => rfl
      · by_contra neither
        obtain ⟨listed, whole⟩ := not_or.1 neither
        simp [(isError_iff_of_mem_partOf whole (part raised)).2 listed] at warning
    sums := by
      have structural : (g.validate policy).warnings.filter (·.kind = .invalidStructure) =
          (partOf g policy .invalidStructure).filter fun i => !i.isError := by
        rw [← filter_graphIssues, List.filter_comm]
        rfl
      rw [structural]
      exact forall₂_warnings_structureIssues policy g.quests
    onNode := fun i hi => exists_entry_of_mem (told hi)
    onEdge := fun i hi _ named => exists_edge_of_mem (told hi) named
    byKind := by
      intro kind n
      rw [byKind, mem_countKinds_iff, ← parted.perm.countP_eq, ValidationReport.issues]
    kinds := byKind ▸ nodup_keys_countKinds _
    counts := by
      rw [byKind, sum_countKinds]
      exact List.length_append
    errorCount := rfl
    warningCount := rfl
    nodes := sum_countKind g
    totalNodes := rfl }

end Storyline
