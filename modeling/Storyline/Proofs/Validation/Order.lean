import Storyline.Proofs.Graph.Joining
import Storyline.Proofs.Validation.Part

/-!
The order of the records does not matter to the verdicts on them. Graphs are alike that have the
same records and join the same identifiers; what is reported on one is reported on the other, in
another order. Loops are an exception: where they are reported depends on where the search begins,
and only whether there are any does not.
-/
namespace Storyline

open Validation Relation

section Keys

variable {α β κ γ : Type} {l : List α} {l' : List β} {key : α → κ} {key' : β → κ}

theorem perm_flatMap_of_key {f : α → List γ} {f' : β → List γ}
    (keys : (l'.map key').Perm (l.map key))
    (same : ∀ a ∈ l, ∀ b ∈ l', key' b = key a → f' b = f a) :
    (l'.flatMap f').Perm (l.flatMap f) := by
  induction l generalizing l' with
  | nil =>
    rw [List.map_nil, List.perm_nil, List.map_eq_nil_iff] at keys
    rw [keys]
    rfl
  | cons a l ih =>
    have there : key a ∈ l'.map key' := keys.symm.subset List.mem_cons_self
    obtain ⟨b, hb, same_key⟩ := List.mem_map.1 there
    obtain ⟨before, after, rfl⟩ := List.append_of_mem hb
    have rest : ((before ++ after).map key').Perm (l.map key) := by
      have first := (List.perm_middle.map key').symm.trans keys
      rw [List.map_cons, List.map_cons, same_key] at first
      exact first.cons_inv
    have others : ((before ++ after).flatMap f').Perm (l.flatMap f) := by
      refine ih rest ?_
      intro c hc d hd
      refine same c (List.mem_cons_of_mem _ hc) d ?_
      exact List.perm_middle.symm.subset (List.mem_cons_of_mem _ hd)
    have first : ((before ++ b :: after).flatMap f').Perm
        (f' b ++ (before ++ after).flatMap f') := List.perm_middle.flatMap_right f'
    rw [same a List.mem_cons_self b hb same_key] at first
    exact first.trans (others.append_left (f a))

theorem perm_map_filter_of_key {p : α → Bool} {p' : β → Bool} {f : α → γ} {f' : β → γ}
    (keys : (l'.map key').Perm (l.map key))
    (test : ∀ a ∈ l, ∀ b ∈ l', key' b = key a → p' b = p a)
    (same : ∀ a ∈ l, ∀ b ∈ l', key' b = key a → f' b = f a) :
    ((l'.filter p').map f').Perm ((l.filter p).map f) := by
  have parts {ε : Type} (p : ε → Bool) (f : ε → γ) (l : List ε) :
      (l.filter p).map f = l.flatMap fun a => if p a then [f a] else [] := by
    induction l with
    | nil => rfl
    | cons a l ih => by_cases h : p a <;> simp [h, ih]
  rw [parts, parts]
  refine perm_flatMap_of_key keys ?_
  intro a ha b hb same_key
  rw [test a ha b hb same_key, same a ha b hb same_key]

end Keys

namespace Graph

/-- Graphs of the same records, in any order, that join the same identifiers. -/
structure Alike (g g' : Graph) : Prop where
  coherent : g.Coherent
  coherent' : g'.Coherent
  distinct : g.DistinctIds
  entries : g'.entries.Perm g.entries
  joins : g'.Joins = g.Joins

namespace Alike

variable {g g' : Graph} (alike : g.Alike g')

include alike

theorem distinct' : g'.DistinctIds :=
  (alike.entries.map Entry.id).nodup_iff.2 alike.distinct

theorem precedes : g'.Precedes = g.Precedes := by
  unfold Precedes
  rw [alike.joins]

theorem isEntrance : g'.IsEntrance = g.IsEntrance := by
  unfold IsEntrance
  simp only [alike.precedes, alike.entries.mem_iff]

/-! What the checks read at the nodes of one record. -/

section Record

variable {i j : Nat} {e : Entry} (here : g.entries[i]? = some e)
  (there : g'.entries[j]? = some e)

include here there

theorem edgeless_iff : g'.Edgeless j ↔ g.Edgeless i := by
  rw [Graph.edgeless_iff alike.coherent' alike.distinct' (lt_of_getElem?_entries there),
    Graph.edgeless_iff alike.coherent alike.distinct (lt_of_getElem?_entries here),
    alike.precedes, idOf_eq here, idOf_eq there]

theorem getD_reachable : g'.reachable.getD j false = g.reachable.getD i false := by
  rw [Bool.eq_iff_iff, getD_reachable_iff alike.coherent', getD_reachable_iff alike.coherent,
    reached_iff alike.coherent' alike.distinct' (lt_of_getElem?_entries there),
    reached_iff alike.coherent alike.distinct (lt_of_getElem?_entries here),
    alike.isEntrance, alike.precedes, idOf_eq here, idOf_eq there]

theorem brokenChainIssues (q : Quest) :
    Validation.brokenChainIssues g' j q = Validation.brokenChainIssues g i q := by
  have wired : 0 < (g'.edgesTo j).countP (·.kind = .prerequisite) ↔
      0 < (g.edgesTo i).countP (·.kind = .prerequisite) := by
    rw [countP_edgesTo_pos_iff g' j alike.coherent', countP_edgesTo_pos_iff g i alike.coherent,
      enters_iff alike.coherent' alike.distinct' (lt_of_getElem?_entries there),
      enters_iff alike.coherent alike.distinct (lt_of_getElem?_entries here),
      alike.joins, idOf_eq here, idOf_eq there]
  rw [Validation.brokenChainIssues, Validation.brokenChainIssues]
  simp only [wired]

end Record

theorem missingPrerequisiteIssues (q : Quest) :
    Validation.missingPrerequisiteIssues g' q = Validation.missingPrerequisiteIssues g q := by
  have found (id : RecordId) :
      (g'.findKind? id .quest).isNone = (g.findKind? id .quest).isNone := by
    have same : IsQuestId g' id ↔ IsQuestId g id := by
      simp only [IsQuestId, alike.distinct'.find?_eq_some_iff, alike.distinct.find?_eq_some_iff,
        alike.entries.mem_iff]
    rw [← isSome_findKind?_quest_iff g' alike.coherent',
      ← isSome_findKind?_quest_iff g alike.coherent, ← Bool.eq_iff_iff] at same
    rw [← Option.not_isSome, ← Option.not_isSome, same]
  simp only [Validation.missingPrerequisiteIssues, found]

theorem perm_quests : (g'.quests.map (·.2)).Perm (g.quests.map (·.2)) := by
  rw [map_snd_quests, map_snd_quests]
  exact alike.entries.filterMap _

theorem perm_numbered :
    (g'.numbered.map (·.2.entry)).Perm (g.numbered.map (·.2.entry)) := by
  have records (g : Graph) : g.numbered.map (·.2.entry) = g.entries := by
    rw [Graph.entries, ← map_snd_numbered, List.map_map]
    rfl
  rw [records, records]
  exact alike.entries

theorem perm_partOf (policy : ValidationPolicy) {kind : IssueKind}
    (searchless : kind ≠ .circularDependency) :
    (partOf g' policy kind).Perm (partOf g policy kind) := by
  have entry {g : Graph} {n : Nat × Node} (hn : n ∈ g.numbered) :
      g.entries[n.1]? = some n.2.entry := by
    rw [getElem?_entries, mem_numbered_iff.1 hn, Option.map_some]
  have orphan : ∀ n ∈ g.numbered, ∀ m ∈ g'.numbered, m.2.entry = n.2.entry →
      m.2.isOrphan = n.2.isOrphan := by
    intro n hn m hm same
    rw [Bool.eq_iff_iff, alike.coherent'.isOrphan_iff (mem_numbered_iff.1 hm),
      alike.coherent.isOrphan_iff (mem_numbered_iff.1 hn)]
    exact alike.edgeless_iff (entry hn) (same ▸ entry hm)
  cases kind with
  | orphan =>
    rw [partOf, partOf, orphanIssues, orphanIssues, ← map_snd_numbered, ← map_snd_numbered,
      List.filter_map, List.filter_map, List.map_map, List.map_map]
    refine perm_map_filter_of_key alike.perm_numbered orphan ?_
    intro n _ m _ same
    simp only [Function.comp_apply, orphanIssue, Node.id, Node.kind, Node.label, same]
  | unreachable =>
    refine perm_map_filter_of_key alike.perm_numbered ?_ ?_
    · rintro ⟨i, n⟩ hn ⟨j, m⟩ hm same
      have reached := alike.getD_reachable (entry hn) (same ▸ entry hm)
      have edges := orphan _ hn _ hm same
      simp only [reached, edges]
    · intro n _ m _ same
      simp only [unreachableIssue, Node.id, Node.kind, Node.label, same]
  | brokenChain =>
    refine perm_flatMap_of_key alike.perm_quests ?_
    rintro ⟨i, q⟩ hq ⟨j, _⟩ hj rfl
    exact alike.brokenChainIssues (mem_quests_iff.1 hq) (mem_quests_iff.1 hj) _
  | invalidCondition => exact alike.entries.flatMap_right _
  | circularDependency => exact absurd rfl searchless
  | missingPrerequisites =>
    refine perm_flatMap_of_key alike.perm_quests ?_
    rintro ⟨i, q⟩ _ ⟨j, _⟩ _ rfl
    exact alike.missingPrerequisiteIssues _
  | invalidStructure =>
    refine perm_flatMap_of_key alike.perm_quests ?_
    rintro ⟨i, q⟩ _ ⟨j, _⟩ _ rfl
    rfl

theorem loopIssues_eq_nil_iff : loopIssues g' = [] ↔ loopIssues g = [] := by
  have acyclic {g : Graph} (coherent : g.Coherent) (distinct : g.DistinctIds) :
      loopIssues g = [] ↔ ∀ id, ¬ TransGen g.Precedes id id := by
    rw [loopIssues_eq_nil_iff_no_return coherent, acyclic_iff coherent distinct]
  rw [acyclic alike.coherent' alike.distinct', acyclic alike.coherent alike.distinct,
    alike.precedes]

theorem noErrors_iff (policy : ValidationPolicy) :
    NoErrors (graphIssues g' policy) ↔ NoErrors (graphIssues g policy) := by
  rw [noErrors_graphIssues_iff_forall, noErrors_graphIssues_iff_forall]
  refine forall_congr' fun kind => ?_
  by_cases loop : kind = .circularDependency
  · subst loop
    rw [partOf, partOf, (allOf_loopIssues g').noErrors_iff, (allOf_loopIssues g).noErrors_iff]
    exact alike.loopIssues_eq_nil_iff
  · have perm := alike.perm_partOf policy loop
    exact ⟨fun none i hi => none i (perm.mem_iff.2 hi), fun none i hi => none i (perm.mem_iff.1 hi)⟩

theorem countWarnings_eq (policy : ValidationPolicy) :
    countWarnings (graphIssues g' policy) = countWarnings (graphIssues g policy) := by
  rw [countWarnings_graphIssues_eq_sum, countWarnings_graphIssues_eq_sum]
  congr 2
  funext kind
  by_cases loop : kind = .circularDependency
  · subst loop
    rw [partOf, partOf, (allOf_loopIssues g').countWarnings_eq,
      (allOf_loopIssues g).countWarnings_eq]
  · exact (alike.perm_partOf policy loop).countP_eq _

end Alike

/-- The graphs of a project in two orders of its records. -/
theorem alike_ofProject {p p' : Project} (distinct : (ofProject p).DistinctIds)
    (entries : (ofProject p').entries.Perm (ofProject p).entries) :
    (ofProject p).Alike (ofProject p') where
  coherent := (grown_ofProject p).coherent
  coherent' := (grown_ofProject p').coherent
  distinct := distinct
  entries := entries
  joins := by
    have distinct' : (ofProject p').DistinctIds :=
      (entries.map Entry.id).nodup_iff.2 distinct
    funext kind a b
    rw [joins_ofProject_iff distinct', joins_ofProject_iff distinct, eq_iff_iff]
    exact ⟨.mono fun _ => entries.mem_iff.1, .mono fun _ => entries.mem_iff.2⟩

end Graph

/-- In whatever order a project has its story arcs, its quests and its dialogues, provided that no
two of them have the same identifier, it gets the same verdicts and, up to their order, the same
issues of each kind but loops; and loops are reported in each order or in none. -/
theorem Project.validate_perm {p p' : Project}
    (distinct : (p.storyArcs.map (·.id) ++ p.quests.map (·.id) ++ p.dialogues.map (·.id)).Nodup)
    (arcs : p'.storyArcs.Perm p.storyArcs) (quests : p'.quests.Perm p.quests)
    (dialogues : p'.dialogues.Perm p.dialogues) :
    p'.validate.isValid = p.validate.isValid ∧
    p'.validate.exportReady = p.validate.exportReady ∧
    (∀ kind ≠ .circularDependency,
      (p'.validate.issuesOf kind).Perm (p.validate.issuesOf kind)) ∧
    (p'.validate.issuesOf .circularDependency = [] ↔
      p.validate.issuesOf .circularDependency = []) := by
  have alike : (Graph.ofProject p).Alike (Graph.ofProject p') := by
    refine Graph.alike_ofProject ?_ ?_
    · simpa [Graph.DistinctIds, Graph.ofProject, Graph.recordEntries, Function.comp_def, Entry.id]
        using distinct
    · rw [Graph.ofProject, Graph.ofProject, Graph.entries_ofRecords, Graph.entries_ofRecords]
      exact ((arcs.map _).append (quests.map _)).append (dialogues.map _)
  have errors := alike.noErrors_iff {}
  have warnings := alike.countWarnings_eq {}
  refine ⟨?_, ?_, ?_, ?_⟩
  · rw [Bool.eq_iff_iff, validate, validate, Graph.validate, Graph.validate,
      isValid_ofIssues_iff, isValid_ofIssues_iff, errors]
  · rw [Bool.eq_iff_iff, validate, validate, Graph.validate, Graph.validate,
      exportReady_ofIssues_iff, exportReady_ofIssues_iff, errors, warnings]
  · intro kind searchless
    exact (perm_issuesOf_validate _ {} kind).trans
      ((alike.perm_partOf {} searchless).trans (perm_issuesOf_validate _ {} kind).symm)
  · have loops (p : Project) : p.validate.issuesOf .circularDependency = [] ↔
        loopIssues (Graph.ofProject p) = [] := by
      have perm := perm_issuesOf_validate (Graph.ofProject p) {} .circularDependency
      rw [← List.perm_nil, ← List.perm_nil]
      exact perm.congr_left []
    rw [loops, loops]
    exact alike.loopIssues_eq_nil_iff

def Project.crossing : Project :=
  { quests := [{ id := "toll", prerequisites := [.questCompleted "gate"] }, { id := "gate" }] }

theorem Project.crossing_turned :
    let turned := { crossing with quests := crossing.quests.reverse }
    turned.quests.map (·.id) = ["gate", "toll"] ∧
    turned.validate.isValid = crossing.validate.isValid ∧
    ∀ kind ≠ .circularDependency,
      (turned.validate.issuesOf kind).Perm (crossing.validate.issuesOf kind) := by
  intro turned
  have distinct : (crossing.storyArcs.map (·.id) ++ crossing.quests.map (·.id)
      ++ crossing.dialogues.map (·.id)).Nodup := by decide
  obtain ⟨valid, _, issues, _⟩ := @validate_perm crossing turned distinct (.refl _)
    (List.reverse_perm _) (.refl _)
  exact ⟨rfl, valid, issues⟩

end Storyline
