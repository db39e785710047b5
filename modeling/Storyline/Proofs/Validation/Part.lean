import Mathlib.Algebra.GroupWithZero.Nat
import Storyline.Proofs.Validation.Connection
import Storyline.Proofs.Validation.Loop
import Storyline.Proofs.Validation.Record
import Storyline.Validation.Checks

/-!
The issues of a graph, part by part. Each kind of issue is raised by one check, so the issues of a
kind are those of its check; and a check that looks at records one by one names the record in what
it raises, so the issues on a record are those that the check raises for it.
-/
namespace Storyline.Validation

open Storyline.Graph

variable {g : Graph} {policy : ValidationPolicy} {i : Issue} {id : RecordId}

def partOf (g : Graph) (policy : ValidationPolicy) : IssueKind → List Issue
  | .orphan => orphanIssues g
  | .unreachable => unreachableIssues g
  | .brokenChain => g.quests.flatMap fun e => brokenChainIssues g e.1 e.2
  | .invalidCondition => g.entries.flatMap entryConditionIssues
  | .circularDependency => loopIssues g
  | .missingPrerequisites => g.quests.flatMap fun e => missingPrerequisiteIssues g e.2
  | .invalidStructure => g.quests.flatMap fun e => structureIssues policy e.2

theorem graphIssues_eq (g : Graph) (policy : ValidationPolicy) : graphIssues g policy =
    partOf g policy .orphan ++ partOf g policy .unreachable ++ partOf g policy .brokenChain
      ++ partOf g policy .circularDependency ++ partOf g policy .missingPrerequisites
      ++ partOf g policy .invalidCondition ++ partOf g policy .invalidStructure := by
  simp only [graphIssues, partOf, entries, List.flatMap_map]

theorem kind_of_mem_partOf {kind : IssueKind} (hi : i ∈ partOf g policy kind) : i.kind = kind := by
  cases kind with
  | orphan => exact (allOf_orphanIssues g i hi).1
  | unreachable => exact (allOf_unreachableIssues g i hi).1
  | brokenChain =>
    obtain ⟨e, _, hi⟩ := List.mem_flatMap.1 hi
    exact (allOf_brokenChainIssues g e.1 e.2 i hi).1
  | invalidCondition =>
    obtain ⟨e, _, hi⟩ := List.mem_flatMap.1 hi
    exact (allOf_entryConditionIssues e i hi).1
  | circularDependency => exact (allOf_loopIssues g i hi).1
  | missingPrerequisites =>
    obtain ⟨e, _, hi⟩ := List.mem_flatMap.1 hi
    exact (allOf_missingPrerequisiteIssues g e.2 i hi).1
  | invalidStructure =>
    obtain ⟨e, _, hi⟩ := List.mem_flatMap.1 hi
    exact kind_of_mem_structureIssues hi

theorem filter_kind_eq {issues : List Issue} {kind : IssueKind} (all : ∀ i ∈ issues, i.kind = kind)
    (k : IssueKind) : issues.filter (·.kind = k) = if kind = k then issues else [] := by
  split
  · rename_i same
    exact List.filter_eq_self.2 fun i hi => by simp [all i hi, same]
  · rename_i other
    exact List.filter_eq_nil_iff.2 fun i hi => by simp [all i hi, other]

theorem filter_graphIssues (g : Graph) (policy : ValidationPolicy) (kind : IssueKind) :
    (graphIssues g policy).filter (·.kind = kind) = partOf g policy kind := by
  have part (k : IssueKind) : (partOf g policy k).filter (·.kind = kind) =
      if k = kind then partOf g policy k else [] :=
    filter_kind_eq (fun _ => kind_of_mem_partOf) kind
  rw [graphIssues_eq]
  simp only [List.filter_append, part]
  cases kind <;> simp

theorem mem_partOf_iff {kind : IssueKind} :
    i ∈ partOf g policy kind ↔ i ∈ graphIssues g policy ∧ i.kind = kind := by
  rw [← filter_graphIssues, List.mem_filter, decide_eq_true_eq]

theorem noErrors_graphIssues_iff_forall (g : Graph) (policy : ValidationPolicy) :
    NoErrors (graphIssues g policy) ↔ ∀ kind, NoErrors (partOf g policy kind) := by
  constructor
  · intro none kind i hi
    exact none i (mem_partOf_iff.1 hi).1
  · intro none i hi
    exact none i.kind i (mem_partOf_iff.2 ⟨hi, rfl⟩)

theorem countWarnings_graphIssues_eq_sum (g : Graph) (policy : ValidationPolicy) :
    countWarnings (graphIssues g policy) =
      (IssueKind.all.map fun kind => countWarnings (partOf g policy kind)).sum := by
  simp only [graphIssues_eq, countWarnings_append, IssueKind.all, List.map_cons, List.map_nil,
    List.sum_cons, List.sum_nil]
  omega

theorem perm_issuesOf_validate (g : Graph) (policy : ValidationPolicy) (kind : IssueKind) :
    ((g.validate policy).issuesOf kind).Perm (partOf g policy kind) := by
  rw [← filter_graphIssues]
  exact perm_issuesOf_ofIssues ..

theorem mem_issuesOf_quests_iff {kind : IssueKind} {f : Nat × Quest → List Issue}
    (raises : partOf g policy kind = g.quests.flatMap f) :
    i ∈ (g.validate policy).issuesOf kind ↔
      ∃ node q, g.entries[node]? = some (.quest q) ∧ i ∈ f (node, q) := by
  rw [(perm_issuesOf_validate g policy kind).mem_iff, raises]
  simp only [List.mem_flatMap, Prod.exists, Graph.mem_quests_iff]

/-! Issues that name a record. -/

def AllOn (id : RecordId) (issues : List Issue) : Prop := ∀ i ∈ issues, i.node = some id

theorem allOn_structureIssues (policy : ValidationPolicy) (q : Quest) :
    AllOn q.id (structureIssues policy q) := by
  intro i hi
  rcases mem_structureIssues_cases hi with ⟨message, suggestions, rfl⟩ | hi
  · rfl
  · rw [sumIssues] at hi
    split at hi
    · cases List.mem_singleton.1 hi
      rfl
    · cases hi

theorem allOn_brokenChainIssues (g : Graph) (node : Nat) (q : Quest) :
    AllOn q.id (brokenChainIssues g node q) := by
  intro i hi
  rw [brokenChainIssues] at hi
  split at hi
  · cases hi
  · cases List.mem_singleton.1 hi
    rfl

theorem allOn_missingPrerequisiteIssues (g : Graph) (q : Quest) :
    AllOn q.id (missingPrerequisiteIssues g q) := by
  intro i hi
  obtain ⟨required, _, rfl⟩ := List.mem_map.1 hi
  rfl

theorem allOn_conditionListIssues (owner : RecordId) (place : String)
    (cs : List AuthoredCondition) : AllOn owner (conditionListIssues owner place cs) := by
  intro i hi
  exact (fields_of_mem_conditionListIssues hi).2.2.1

theorem allOn_entryConditionIssues (e : Entry) : AllOn e.id (entryConditionIssues e) := by
  intro i hi
  cases e with
  | storyArc a => cases hi
  | quest q =>
    rcases List.mem_append.1 hi with hi | hi
    · exact allOn_conditionListIssues _ _ _ i hi
    · obtain ⟨_, _, hi⟩ := List.mem_flatMap.1 hi
      exact allOn_conditionListIssues _ _ _ i hi
  | dialogue d => exact allOn_conditionListIssues _ _ _ i hi

/-- Of a list in which only one member gives anything, all comes from this member. -/
theorem flatMap_eq_of_mem {α β : Type} {f : α → List β} {l : List α} (distinct : l.Nodup) {a : α}
    (ha : a ∈ l) (none : ∀ b ∈ l, b ≠ a → f b = []) : l.flatMap f = f a := by
  obtain ⟨before, after, rfl⟩ := List.append_of_mem ha
  rw [List.nodup_append, List.nodup_cons] at distinct
  obtain ⟨_, ⟨later, _⟩, earlier⟩ := distinct
  have none_before : before.flatMap f = [] := by
    apply List.flatMap_eq_nil_iff.2
    intro b hb
    exact none b (List.mem_append_left _ hb) (earlier b hb a List.mem_cons_self)
  have none_after : after.flatMap f = [] := by
    apply List.flatMap_eq_nil_iff.2
    intro b hb
    apply none b (List.mem_append_right _ (List.mem_cons_of_mem _ hb))
    rintro rfl
    exact later hb
  rw [List.flatMap_append, List.flatMap_cons, none_before, none_after, List.nil_append,
    List.append_nil]

/-- Where records have identifiers of their own, the issues on one are those raised for it. -/
theorem filter_node_flatMap {α : Type} {key : α → RecordId} {f : α → List Issue}
    (on : ∀ a, AllOn (key a) (f a)) {l : List α} (distinct : (l.map key).Nodup) {a : α}
    (ha : a ∈ l) : (l.flatMap f).filter (·.node = some (key a)) = f a := by
  have own : (f a).filter (·.node = some (key a)) = f a :=
    List.filter_eq_self.2 fun i hi => by simp [on a i hi]
  rw [List.filter_flatMap, flatMap_eq_of_mem distinct.of_map ha, own]
  intro b hb other
  have apart : key b ≠ key a := fun same => other (List.inj_on_of_nodup_map distinct hb ha same)
  exact List.filter_eq_nil_iff.2 fun i hi => by simp [on b i hi, apart]

end Storyline.Validation
