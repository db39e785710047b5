import Storyline.Proofs.Graph.Reference
import Storyline.Proofs.Validation.Part

/-!
The references of prerequisites, kept account of. In the graph of lists of records each reference of
a quest to another either gives an edge that enters its node or is reported as missing, so a chain
is only broken where all references are missing. In graphs that were put together otherwise it may
be broken for want of edges alone.
-/
namespace Storyline

open Validation

namespace Graph

variable {arcs : List StoryArc} {quests : List Quest} {dialogues : List Dialogue} {q : Quest}
  {i : Nat}

def IsRequirement (i : Nat) (l : Link) : Prop := l.target = i ∧ l.kind = .prerequisite

instance (i : Nat) : DecidablePred (IsRequirement i) := fun l =>
  inferInstanceAs (Decidable (l.target = i ∧ l.kind = .prerequisite))

theorem nodup_zipIdx {α : Type} (l : List α) (n : Nat) : (l.zipIdx n).Nodup := by
  apply List.Nodup.of_map Prod.snd
  rw [List.zipIdx_map_snd]
  exact List.nodup_range'

theorem filter_made {α : Type} {f : α → Option Nat} {make : α → Nat → Link} {i : Nat}
    (all : ∀ a j, IsRequirement i (make a j)) (l : List α) :
    (l.filterMap fun a => (f a).map (make a)).filter (IsRequirement i) =
      l.filterMap fun a => (f a).map (make a) := by
  apply List.filter_eq_self.2
  intro link made
  obtain ⟨a, _, here⟩ := List.mem_filterMap.1 made
  obtain ⟨j, _, rfl⟩ := Option.map_eq_some_iff.1 here
  exact decide_eq_true (all a j)

theorem filter_made_eq_nil {α : Type} {f : α → Option Nat} {make : α → Nat → Link} {i : Nat}
    (none : ∀ a j, ¬ IsRequirement i (make a j)) (l : List α) :
    (l.filterMap fun a => (f a).map (make a)).filter (IsRequirement i) = [] := by
  apply List.filter_eq_nil_iff.2
  intro link made
  obtain ⟨a, _, here⟩ := List.mem_filterMap.1 made
  obtain ⟨j, _, rfl⟩ := Option.map_eq_some_iff.1 here
  simpa using none a j

theorem filter_referenceLinks
    (here : (recordEntries arcs quests dialogues)[i]? = some (.quest q)) :
    (referenceLinks arcs quests dialogues).filter (IsRequirement i) =
      q.prerequisites.filterMap fun c =>
        (c.referencedQuest?.bind (resolve? (recordEntries arcs quests dialogues) .quest)).map
          fun required => ⟨required, i, .prerequisite, some (.condition c)⟩ := by
  have only : (q, i) ∈ quests.zipIdx arcs.length := mem_zipIdx_quests_iff.2 here
  have arc (found : Option Nat) (j : Nat) :
      (found.map fun arc => (⟨arc, j, .belongsTo, none⟩ : Link)).toList.filter
        (IsRequirement i) = [] := by
    cases found <;> simp [IsRequirement]
  have dialogue (toQuest : RecordId → Option Nat) (lines : List (Dialogue × Nat)) :
      (lines.filterMap fun e => (e.1.quest.bind toQuest).map fun quest =>
        (⟨quest, e.2, .belongsTo, none⟩ : Link)).filter (IsRequirement i) = [] :=
    filter_made_eq_nil (by simp [IsRequirement]) lines
  -- records may be equal, so it is the numbers that tell the quest from the others
  rw [referenceLinks, List.filter_append, List.filter_flatMap,
    flatMap_eq_of_mem (nodup_zipIdx _ _) only]
  · simp only [List.filter_append, arc]
    rw [filter_made (by simp [IsRequirement]), filter_made_eq_nil (by simp [IsRequirement]),
      List.nil_append, List.append_nil]
    exact List.append_right_eq_self.2 (dialogue _ _)
  · rintro ⟨r, j⟩ there other
    have apart : j ≠ i := by
      rintro rfl
      rw [mem_zipIdx_quests_iff, here] at there
      cases there
      exact other rfl
    simp only [List.filter_append, arc]
    rw [filter_made_eq_nil (by simp [IsRequirement, apart]),
      filter_made_eq_nil (by simp [IsRequirement]), List.nil_append, List.append_nil]

theorem countP_referencing {f : RecordId → Option Nat} (q : Quest) :
    q.prerequisites.countP (fun c => (c.referencedQuest?.bind f).isSome) =
      q.prerequisiteQuests.countP fun id => (f id).isSome := by
  rw [Quest.prerequisiteQuests, List.countP_filterMap]
  congr 1
  funext c
  cases c.referencedQuest? <;> rfl

theorem countP_requirements
    (here : (ofRecords arcs quests dialogues).entries[i]? = some (.quest q)) :
    (ofRecords arcs quests dialogues).edges.toList.countP
        (fun e => e.target = i ∧ e.kind = .prerequisite) =
      q.prerequisiteQuests.countP
        fun id => ((ofRecords arcs quests dialogues).findKind? id .quest).isSome := by
  have coherent := (grown_ofRecords arcs quests dialogues).coherent
  have resolved : (fun id => ((ofRecords arcs quests dialogues).findKind? id .quest).isSome) =
      fun id => (resolve? (recordEntries arcs quests dialogues) .quest id).isSome := by
    simp only [coherent.findKind?_eq_resolve?, entries_ofRecords]
  have linked : (ofRecords arcs quests dialogues).edges.toList.countP
      (fun e => e.target = i ∧ e.kind = .prerequisite) =
        (referenceLinks arcs quests dialogues).countP (IsRequirement i ·) := by
    rw [← edges_ofRecords_eq, List.countP_map]
    rfl
  rw [entries_ofRecords] at here
  rw [linked, List.countP_eq_length_filter, filter_referenceLinks here,
    List.length_filterMap_eq_countP, resolved, ← countP_referencing]
  simp only [Option.isSome_map]

theorem length_missingPrerequisiteIssues (g : Graph) (q : Quest) :
    (missingPrerequisiteIssues g q).length +
        q.prerequisiteQuests.countP (fun id => (g.findKind? id .quest).isSome) =
      q.prerequisiteQuests.length := by
  have split := q.prerequisiteQuests.length_eq_countP_add_countP
    fun id => (g.findKind? id .quest).isSome
  have absent : (missingPrerequisiteIssues g q).length =
      q.prerequisiteQuests.countP fun id => !(g.findKind? id .quest).isSome := by
    simp only [missingPrerequisiteIssues, List.length_map, List.countP_eq_length_filter,
      Option.not_isSome]
  simp only [Bool.not_eq_true, Bool.decide_eq_false] at split
  omega

theorem missingPrerequisiteIssues_eq_all_iff (g : Graph) (q : Quest) :
    missingPrerequisiteIssues g q = q.prerequisiteQuests.map (missingPrerequisiteIssue q) ↔
      (missingPrerequisiteIssues g q).length = q.prerequisiteQuests.length := by
  constructor
  · intro all
    rw [all, List.length_map]
  · intro all
    rw [missingPrerequisiteIssues, List.length_map, List.length_filter_eq_length_iff] at all
    rw [missingPrerequisiteIssues, List.filter_eq_self.2 all]

theorem prerequisiteQuests_ne_nil_iff (q : Quest) :
    q.prerequisiteQuests ≠ [] ↔ ∃ c ∈ q.prerequisites, c.referencedQuest?.isSome := by
  simp [Quest.prerequisiteQuests, Option.isSome_iff_ne_none]

/-- What a quest requires is either linked or reported as missing, and its chain is broken just
where it requires something of which all is missing. -/
structure Accounts (g : Graph) (i : Nat) (q : Quest) : Prop where
  total : (missingPrerequisiteIssues g q).length +
      g.edges.toList.countP (fun e => e.target = i ∧ e.kind = .prerequisite) =
    q.prerequisites.countP (·.referencedQuest?.isSome)
  broken_iff : brokenChainIssues g i q ≠ [] ↔
    (∃ c ∈ q.prerequisites, c.referencedQuest?.isSome) ∧
      missingPrerequisiteIssues g q = q.prerequisiteQuests.map (missingPrerequisiteIssue q)

theorem accounts_ofRecords
    (here : (ofRecords arcs quests dialogues).entries[i]? = some (.quest q)) :
    Accounts (ofRecords arcs quests dialogues) i q := by
  have coherent := (grown_ofRecords arcs quests dialogues).coherent
  have linked := countP_requirements here
  have total := length_missingPrerequisiteIssues (ofRecords arcs quests dialogues) q
  have declared : q.prerequisiteQuests.length =
      q.prerequisites.countP (·.referencedQuest?.isSome) := List.length_filterMap_eq_countP
  refine ⟨by omega, ?_⟩
  have unlinked : (¬ ∃ e ∈ (ofRecords arcs quests dialogues).edges,
      e.target = i ∧ e.kind = .prerequisite) ↔
        (ofRecords arcs quests dialogues).edges.toList.countP
          (fun e => e.target = i ∧ e.kind = .prerequisite) = 0 := by
    simp
  rw [Ne, brokenChainIssues_eq_nil_iff _ _ _ coherent, Classical.not_imp, unlinked,
    prerequisiteQuests_ne_nil_iff, missingPrerequisiteIssues_eq_all_iff]
  refine and_congr_right fun _ => ?_
  omega

theorem exists_missing_of_brokenChain {issue : Issue}
    (here : (ofRecords arcs quests dialogues).entries[i]? = some (.quest q))
    (broken : issue ∈ brokenChainIssues (ofRecords arcs quests dialogues) i q) :
    ∃ other ∈ missingPrerequisiteIssues (ofRecords arcs quests dialogues) q,
      other.node = issue.node := by
  obtain ⟨declares, all⟩ := (accounts_ofRecords here).broken_iff.1 (List.ne_nil_of_mem broken)
  have nonempty : missingPrerequisiteIssues (ofRecords arcs quests dialogues) q ≠ [] := by
    rwa [all, Ne, List.map_eq_nil_iff, ← Ne, prerequisiteQuests_ne_nil_iff]
  obtain ⟨other, missing⟩ := List.exists_mem_of_ne_nil _ nonempty
  refine ⟨other, missing, ?_⟩
  rw [allOn_missingPrerequisiteIssues _ _ _ missing, allOn_brokenChainIssues _ _ _ _ broken]

/-- In the graph of lists of records each quest accounts for what it requires, so where a chain is
reported as broken something that the quest requires is reported as missing. -/
theorem requirements_accounted (arcs : List StoryArc) (quests : List Quest)
    (dialogues : List Dialogue) :
    (∀ i q, (ofRecords arcs quests dialogues).entries[i]? = some (.quest q) →
      Accounts (ofRecords arcs quests dialogues) i q) ∧
    ∀ policy, ∀ issue ∈ ((ofRecords arcs quests dialogues).validate policy).issuesOf .brokenChain,
      ∃ other ∈ ((ofRecords arcs quests dialogues).validate policy).issuesOf .missingPrerequisites,
        other.node = issue.node := by
  refine ⟨fun _ _ => accounts_ofRecords, ?_⟩
  intro policy issue raised
  obtain ⟨i, q, here, broken⟩ := (mem_issuesOf_quests_iff rfl).1 raised
  obtain ⟨other, missing, same⟩ := exists_missing_of_brokenChain here broken
  exact ⟨other, (mem_issuesOf_quests_iff rfl).2 ⟨i, q, here, missing⟩, same⟩

theorem length_missing_ofRecords (arcs : List StoryArc) (quests : List Quest)
    (dialogues : List Dialogue) (q : Quest) :
    (missingPrerequisiteIssues (ofRecords arcs quests dialogues) q).length =
      q.prerequisiteQuests.countP fun id =>
        (resolve? (recordEntries arcs quests dialogues) .quest id).isNone := by
  have coherent := (grown_ofRecords arcs quests dialogues).coherent
  rw [missingPrerequisiteIssues, List.length_map, ← List.countP_eq_length_filter]
  simp only [coherent.findKind?_eq_resolve?, entries_ofRecords]

/-- It requires itself, another quest, a dialogue and what is not there. -/
def cellar : Quest :=
  { id := "cellar"
    prerequisites := ["cellar", "hall", "echo", "attic"].map .questCompleted }

def stairs : Quest := { id := "hall", prerequisites := [.questCompleted "attic"] }

def house : Graph := ofRecords [] [{ id := "hall" }, cellar, stairs] [{ id := "echo" }]

theorem house_accounted :
    house.entries[1]? = some (.quest cellar) ∧ house.entries[2]? = some (.quest stairs) ∧
    (missingPrerequisiteIssues house cellar).length = 2 ∧
    house.edges.toList.countP (fun e => e.target = 1 ∧ e.kind = .prerequisite) = 2 ∧
    brokenChainIssues house 2 stairs ≠ [] ∧
    ∃ issue ∈ house.validate.issuesOf .brokenChain,
      ∃ other ∈ house.validate.issuesOf .missingPrerequisites, other.node = issue.node := by
  have accounts : ∀ i q, house.entries[i]? = some (.quest q) → Accounts house i q :=
    (requirements_accounted ..).1
  have paired : ∀ policy, ∀ issue ∈ (house.validate policy).issuesOf .brokenChain,
      ∃ other ∈ (house.validate policy).issuesOf .missingPrerequisites,
        other.node = issue.node := (requirements_accounted ..).2
  have second : house.entries[1]? = some (.quest cellar) := by
    rw [house, entries_ofRecords]
    rfl
  have third : house.entries[2]? = some (.quest stairs) := by
    rw [house, entries_ofRecords]
    rfl
  have missing : (missingPrerequisiteIssues house cellar).length = 2 := by
    rw [house, length_missing_ofRecords]
    decide +kernel
  have total := (accounts 1 cellar second).total
  have declared : cellar.prerequisites.countP (·.referencedQuest?.isSome) = 4 := by decide +kernel
  have none_left : (missingPrerequisiteIssues house stairs).length = 1 := by
    rw [house, length_missing_ofRecords]
    decide +kernel
  have cut : brokenChainIssues house 2 stairs ≠ [] :=
    (accounts 2 stairs third).broken_iff.2
      ⟨by decide +kernel, (missingPrerequisiteIssues_eq_all_iff house stairs).2 none_left⟩
  obtain ⟨issue, raised⟩ := List.exists_mem_of_ne_nil _ cut
  have reported : issue ∈ house.validate.issuesOf .brokenChain :=
    (mem_issuesOf_quests_iff rfl).2 ⟨2, stairs, third, raised⟩
  exact ⟨second, third, missing, by omega, cut, issue, reported, paired {} issue reported⟩

end Graph

end Storyline
