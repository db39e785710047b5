import Storyline.Proofs.Graph.Reference
import Storyline.Proofs.Validation.Part

/-!
What the loops of the graph of lists of records run through: only quests lead somewhere and are led
to, so a loop is reported at a quest, with an edge for a prerequisite or an outcome.
-/
namespace Storyline.Validation

open Storyline.Graph

variable {g : Graph} {issue : Issue}

theorem exists_reportsLoop_of_mem (coherent : g.Coherent) (raised : issue ∈ loopIssues g) :
    ∃ v, ReportsLoop g issue v := by
  obtain ⟨places, reports, _⟩ := exists_places coherent
  obtain ⟨k, here, rfl⟩ := List.mem_iff_getElem.1 raised
  exact ⟨_, reports.get here (reports.length_eq ▸ here)⟩

def BlamesQuest (g : Graph) (issue : Issue) : Prop :=
  ∃ i q, g.entries[i]? = some (.quest q) ∧ issue.node = some q.id ∧
    ∃ e ∈ g.edges, issue.edge = some e.id ∧ e.target = i ∧
      (e.kind = .prerequisite ∨ e.kind = .outcome)

theorem ReportsLoop.blamesQuest (coherent : g.Coherent) (wired : ∀ e ∈ g.edges, g.Wires e.link)
    {v : Nat} (reports : ReportsLoop g issue v) : BlamesQuest g issue := by
  obtain ⟨e, he, shown, rfl, closes, _⟩ := reports.edge
  obtain ⟨q, target⟩ := exists_quest_of_return coherent wired closes.return_target
  obtain ⟨r, source⟩ := exists_quest_of_return coherent wired closes.return_source
  obtain ⟨n, here, named⟩ := reports.node
  have same : n.entry = .quest q := by
    rw [getElem?_entries, here] at target
    exact Option.some.inj target
  refine ⟨e.target, q, target, ?_, e, he, shown, rfl, ?_⟩
  · rw [named, Node.id, same]
    rfl
  · exact (wired e he).kind_of_quests coherent source target

theorem blamesQuest_of_mem_issuesOf {arcs : List StoryArc} {quests : List Quest}
    {dialogues : List Dialogue} {policy : ValidationPolicy}
    (raised : issue ∈ ((ofRecords arcs quests dialogues).validate policy).issuesOf
      .circularDependency) :
    BlamesQuest (ofRecords arcs quests dialogues) issue := by
  have coherent := (grown_ofRecords arcs quests dialogues).coherent
  have loop := (perm_issuesOf_validate _ policy .circularDependency).mem_iff.1 raised
  obtain ⟨v, reports⟩ := exists_reportsLoop_of_mem coherent loop
  exact reports.blamesQuest coherent fun e => mem_edges_ofRecords

end Storyline.Validation

namespace Storyline.Graph

/-- The graph of lists of records holds them in order, with the edges that their references give
and no others. So its roots are the story arcs, nothing leads to one of these, a dialogue leads
nowhere, and an issue on a dependency loop blames a quest. -/
theorem ofRecords_exact (arcs : List StoryArc) (quests : List Quest) (dialogues : List Dialogue) :
    (ofRecords arcs quests dialogues).entries =
      arcs.map .storyArc ++ quests.map .quest ++ dialogues.map .dialogue ∧
    (ofRecords arcs quests dialogues).edges.toList.map Edge.link =
      referenceLinks arcs quests dialogues ∧
    (∀ i, i ∈ (ofRecords arcs quests dialogues).roots ↔ i < arcs.length) ∧
    (∀ e ∈ (ofRecords arcs quests dialogues).edges,
      (∀ a, (ofRecords arcs quests dialogues).entries[e.target]? ≠ some (.storyArc a)) ∧
      ∀ d, (ofRecords arcs quests dialogues).entries[e.source]? ≠ some (.dialogue d)) ∧
    ∀ policy, ∀ issue ∈ ((ofRecords arcs quests dialogues).validate policy).issuesOf
      .circularDependency, Validation.BlamesQuest (ofRecords arcs quests dialogues) issue := by
  have coherent := (grown_ofRecords arcs quests dialogues).coherent
  refine ⟨entries_ofRecords .., edges_ofRecords_eq .., fun i => mem_roots_ofRecords_iff, ?_, ?_⟩
  · intro e he
    have wires := mem_edges_ofRecords he
    exact ⟨wires.target_ne_arc, wires.source_ne_dialogue coherent⟩
  · intro policy issue raised
    exact Validation.blamesQuest_of_mem_issuesOf raised

end Storyline.Graph
