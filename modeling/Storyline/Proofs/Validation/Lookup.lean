import Storyline.Proofs.Validation.QuestReport

/-!
Records looked up in a project and in its graph. A project looks among the records of one kind, its
graph among all records and the story arcs first. So the graph finds the same story arcs, but no
quest whose identifier a story arc has; where such a quest is required, it is reported as missing.
-/
namespace Storyline

open Validation

namespace Project

variable {p : Project} {id : RecordId}

theorem quest_eq_ok_iff {q : Quest} :
    p.quest id = .ok q ↔ p.quests.find? (·.id = id) = some q := by
  rw [quest]
  cases p.quests.find? (·.id = id) <;> simp

theorem quest_eq_error_iff :
    p.quest id = .error (.quest id) ↔ p.quests.find? (·.id = id) = none := by
  rw [quest]
  cases p.quests.find? (·.id = id) <;> simp

theorem storyArc_eq_ok_iff {a : StoryArc} :
    p.storyArc id = .ok a ↔ p.storyArcs.find? (·.id = id) = some a := by
  rw [storyArc]
  cases p.storyArcs.find? (·.id = id) <;> simp

theorem storyArc_eq_error_iff :
    p.storyArc id = .error (.storyArc id) ↔ p.storyArcs.find? (·.id = id) = none := by
  rw [storyArc]
  cases p.storyArcs.find? (·.id = id) <;> simp

/-- The graph shows no quest for the identifier: no quest has it, or a story arc has it too. -/
def Unfound (p : Project) (id : RecordId) : Prop :=
  p.quest id = .error (.quest id) ∨ ∃ a, p.storyArc id = .ok a

end Project

namespace Graph

variable {p : Project} {id : RecordId}

theorem find?_entries_ofProject (p : Project) (id : RecordId) :
    (ofProject p).entries.find? (·.id = id) =
      (((p.storyArcs.find? (·.id = id)).map Entry.storyArc).or
        ((p.quests.find? (·.id = id)).map Entry.quest)).or
        ((p.dialogues.find? (·.id = id)).map Entry.dialogue) := by
  rw [ofProject, entries_ofRecords, recordEntries, List.find?_append, List.find?_append,
    List.find?_map, List.find?_map, List.find?_map]
  rfl

theorem exists_findKind?_storyArc_iff (p : Project) (id : RecordId) (a : StoryArc) :
    (∃ i, (ofProject p).findKind? id .storyArc = some i ∧
      (ofProject p).entries[i]? = some (.storyArc a)) ↔ p.storyArc id = .ok a := by
  have first := (grown_ofProject p).coherent.exists_findKind?_iff id (.storyArc a)
  rw [Entry.kind] at first
  rw [first, find?_entries_ofProject, Project.storyArc_eq_ok_iff]
  cases p.storyArcs.find? (·.id = id) with
  | some b => simp
  | none => cases p.quests.find? (·.id = id) <;> simp

theorem exists_findKind?_quest_iff (p : Project) (id : RecordId) (q : Quest) :
    (∃ i, (ofProject p).findKind? id .quest = some i ∧
      (ofProject p).entries[i]? = some (.quest q)) ↔
      p.quest id = .ok q ∧ p.storyArc id = .error (.storyArc id) := by
  have first := (grown_ofProject p).coherent.exists_findKind?_iff id (.quest q)
  rw [Entry.kind] at first
  rw [first, find?_entries_ofProject, Project.quest_eq_ok_iff, Project.storyArc_eq_error_iff]
  cases p.storyArcs.find? (·.id = id) with
  | some a => simp
  | none => cases p.quests.find? (·.id = id) <;> simp

theorem findKind?_quest_eq_none_iff (p : Project) (id : RecordId) :
    (ofProject p).findKind? id .quest = none ↔ p.Unfound id := by
  constructor
  · intro none
    cases quest : p.quests.find? (·.id = id) with
    | none => exact .inl (Project.quest_eq_error_iff.2 quest)
    | some q =>
      cases arc : p.storyArcs.find? (·.id = id) with
      | some a => exact .inr ⟨a, Project.storyArc_eq_ok_iff.2 arc⟩
      | none =>
        obtain ⟨i, found, _⟩ := (exists_findKind?_quest_iff p id q).2
          ⟨Project.quest_eq_ok_iff.2 quest, Project.storyArc_eq_error_iff.2 arc⟩
        rw [none] at found
        cases found
  · intro unfound
    by_contra somewhere
    obtain ⟨i, found⟩ := Option.ne_none_iff_exists'.1 somewhere
    obtain ⟨_, q, here⟩ := findKind?_quest_eq_some_iff.1 found
    obtain ⟨there, alone⟩ := (exists_findKind?_quest_iff p id q).1 ⟨i, found, here⟩
    rcases unfound with missing | ⟨a, arc⟩
    · rw [missing] at there
      cases there
    · rw [arc] at alone
      cases alone

theorem exists_mem_quests_ofProject_iff {p : Project} {q : Quest} :
    (∃ i, (i, q) ∈ (ofProject p).quests) ↔ q ∈ p.quests := by
  simp [mem_quests_iff, ← List.mem_iff_getElem?, ofProject, recordEntries]

theorem mem_missingPrerequisiteIssues_ofProject_iff {p : Project} {q : Quest} {issue : Issue} :
    issue ∈ missingPrerequisiteIssues (ofProject p) q ↔
      ∃ required ∈ q.prerequisiteQuests, p.Unfound required ∧
        missingPrerequisiteIssue q required = issue := by
  simp [missingPrerequisiteIssues, findKind?_quest_eq_none_iff, and_assoc]

end Graph

/-- A project and its graph find the same story arcs. The graph finds the quests that the project
finds, except those whose identifier a story arc has: it does not show these, and reports them as
missing where they are required. -/
theorem Project.graph_lookups (p : Project) :
    (∀ id a, (∃ i, (Graph.ofProject p).findKind? id .storyArc = some i ∧
      (Graph.ofProject p).entries[i]? = some (.storyArc a)) ↔ p.storyArc id = .ok a) ∧
    (∀ id q, (∃ i, (Graph.ofProject p).findKind? id .quest = some i ∧
      (Graph.ofProject p).entries[i]? = some (.quest q)) ↔
        p.quest id = .ok q ∧ p.storyArc id = .error (.storyArc id)) ∧
    (∀ id, (Graph.ofProject p).validateQuest id = .error (.quest id) ↔ p.Unfound id) ∧
    ∀ issue, issue ∈ p.validate.issuesOf .missingPrerequisites ↔
      ∃ q ∈ p.quests, ∃ required ∈ q.prerequisiteQuests, p.Unfound required ∧
        missingPrerequisiteIssue q required = issue := by
  refine ⟨Graph.exists_findKind?_storyArc_iff p, Graph.exists_findKind?_quest_iff p, ?_, ?_⟩
  · intro id
    rw [Graph.validateQuest_eq_error_iff, Graph.findKind?_quest_eq_none_iff]
  · intro issue
    rw [validate, (perm_issuesOf_validate _ _ _).mem_iff, partOf, List.mem_flatMap]
    constructor
    · rintro ⟨⟨i, q⟩, quest, raised⟩
      exact ⟨q, Graph.exists_mem_quests_ofProject_iff.1 ⟨i, quest⟩,
        Graph.mem_missingPrerequisiteIssues_ofProject_iff.1 raised⟩
    · rintro ⟨q, quest, raised⟩
      obtain ⟨i, quest⟩ := Graph.exists_mem_quests_ofProject_iff.2 quest
      exact ⟨(i, q), quest, Graph.mem_missingPrerequisiteIssues_ofProject_iff.2 raised⟩

def Project.gates : Project :=
  { storyArcs := [{ id := "gate" }]
    quests :=
      [{ id := "gate", title := "The gate" },
        { id := "toll", title := "The toll", prerequisites := [.questCompleted "gate"] }] }

theorem Project.gate_hidden :
    (∃ q, gates.quest "gate" = .ok q) ∧
    (Graph.ofProject gates).findKind? "gate" .quest = none ∧
    (Graph.ofProject gates).validateQuest "gate" = .error (.quest "gate") ∧
    ∃ issue ∈ gates.validate.issuesOf .missingPrerequisites, issue.node = some "toll" := by
  have hidden : (Graph.ofProject gates).findKind? "gate" .quest = none :=
    (Graph.findKind?_quest_eq_none_iff gates "gate").2 (.inr ⟨_, rfl⟩)
  refine ⟨⟨_, rfl⟩, hidden, Graph.validateQuest_eq_error_iff.2 hidden, ?_⟩
  let toll : Quest :=
    { id := "toll", title := "The toll", prerequisites := [.questCompleted "gate"] }
  refine ⟨missingPrerequisiteIssue toll "gate", ?_, rfl⟩
  have quest : (2, toll) ∈ (Graph.ofProject gates).quests := by
    rw [Graph.mem_quests_iff, Graph.ofProject, Graph.entries_ofRecords]
    rfl
  rw [validate, (perm_issuesOf_validate _ _ _).mem_iff, partOf, List.mem_flatMap]
  refine ⟨_, quest, Graph.mem_missingPrerequisiteIssues_ofProject_iff.2 ?_⟩
  exact ⟨"gate", List.mem_singleton.2 rfl, .inr ⟨_, rfl⟩, rfl⟩

end Storyline
