import Storyline.Proofs.Validation.Part

/-!
The two verdicts of a validation, in terms of the graph and its records alone. No issue, no search
and no pass over the graph is mentioned in what a valid graph is.
-/
namespace Storyline

open Validation

/-- A graph that is valid under every policy. -/
structure Graph.Clean (g : Graph) : Prop where
  acyclic : ∀ c, ¬ g.IsCycle c
  reached : ∀ i < g.nodes.size, ¬ g.Edgeless i →
    ∃ r, g.IsEntryPoint r ∧ Relation.ReflTransGen g.LeadsTo r i
  wired : ∀ (i : Nat) (q : Quest), g.entries[i]? = some (.quest q) → q.prerequisiteQuests ≠ [] →
    ∃ e ∈ g.edges, e.target = i ∧ e.kind = .prerequisite
  found : ∀ (i : Nat) (q : Quest), g.entries[i]? = some (.quest q) →
    ∀ id ∈ q.prerequisiteQuests, IsQuestId g id
  proper : ∀ e ∈ g.entries, ∀ c ∈ conditionsOf e, IsProper c
  wellMade : ∀ (i : Nat) (q : Quest), g.entries[i]? = some (.quest q) → WellMade q

namespace Validation

theorem countP_quests (g : Graph) (test : Quest → Bool) :
    g.quests.countP (fun e => test e.2) = g.entries.countP fun e => e.quest?.any test := by
  have records : (g.quests.map (·.2)).countP test = _ := congrArg _ g.map_snd_quests
  rw [List.countP_map, List.countP_filterMap] at records
  refine records.trans (List.countP_congr ?_)
  intro e _
  cases e.quest? <;> simp

theorem mem_loopIssues_iff {g : Graph} (policy : ValidationPolicy) {i : Issue} :
    i ∈ loopIssues g ↔ i ∈ graphIssues g policy ∧ i.kind = .circularDependency := by
  rw [← mem_partOf_iff, partOf]

theorem mem_missingPrerequisiteIssues_iff {g : Graph} (policy : ValidationPolicy) {i : Issue} :
    (∃ e ∈ g.quests, i ∈ missingPrerequisiteIssues g e.2) ↔
      i ∈ graphIssues g policy ∧ i.kind = .missingPrerequisites := by
  rw [← mem_partOf_iff, partOf, List.mem_flatMap]

theorem noErrors_graphIssues_iff {g : Graph} (coherent : g.Coherent) (policy : ValidationPolicy) :
    NoErrors (graphIssues g policy) ↔ g.Clean := by
  have reached := (allOf_unreachableIssues g).noErrors_iff.trans
    (unreachableIssues_eq_nil_iff coherent)
  have acyclic := (allOf_loopIssues g).noErrors_iff.trans (loopIssues_eq_nil_iff coherent)
  have wired : ∀ i q, NoErrors (brokenChainIssues g i q) ↔ (q.prerequisiteQuests ≠ [] →
      ∃ e ∈ g.edges, e.target = i ∧ e.kind = .prerequisite) := fun i q =>
    (allOf_brokenChainIssues g i q).noErrors_iff.trans
      (brokenChainIssues_eq_nil_iff g i q coherent)
  have found : ∀ q, NoErrors (missingPrerequisiteIssues g q) ↔
      ∀ id ∈ q.prerequisiteQuests, IsQuestId g id := fun q =>
    (allOf_missingPrerequisiteIssues g q).noErrors_iff.trans
      (missingPrerequisiteIssues_eq_nil_iff g q coherent)
  have proper : (∀ n ∈ g.nodes.toList, NoErrors (entryConditionIssues n.entry)) ↔
      ∀ e ∈ g.entries, ∀ c ∈ conditionsOf e, IsProper c := by
    simp only [noErrors_entryConditionIssues_iff, Graph.entries, List.forall_mem_map]
  simp only [graphIssues, noErrors_append, noErrors_flatMap, reached, acyclic, proper, wired, found,
    noErrors_structureIssues_iff, Prod.forall, Graph.mem_quests_iff, and_assoc]
  constructor
  · rintro ⟨_, reached, wired, acyclic, found, proper, wellMade⟩
    exact ⟨acyclic, reached, wired, found, proper, wellMade⟩
  · intro h
    exact ⟨(allOf_orphanIssues g).noErrors, h.reached, h.wired, h.acyclic, h.found, h.proper,
      h.wellMade⟩

theorem countWarnings_graphIssues {g : Graph} (coherent : g.Coherent) (policy : ValidationPolicy) :
    countWarnings (graphIssues g policy) = (List.range g.nodes.size).countP (g.Edgeless ·)
      + g.entries.countP fun e => e.quest?.any (deviates policy) := by
  have orphans := (allOf_orphanIssues g).noErrors.countWarnings_eq.trans
    (length_orphanIssues coherent)
  have sums : countWarnings (g.quests.flatMap fun e => structureIssues policy e.2) =
      g.entries.countP fun e => e.quest?.any (deviates policy) := by
    rw [countWarnings_flatMap fun e => countWarnings_structureIssues policy e.2, countP_quests]
  have chains := (AllOf.flatMap (l := g.quests) fun e =>
    allOf_brokenChainIssues g e.1 e.2).countWarnings_eq
  have missing := (AllOf.flatMap (l := g.quests) fun e =>
    allOf_missingPrerequisiteIssues g e.2).countWarnings_eq
  have conditions := (AllOf.flatMap (l := g.nodes.toList) fun n =>
    allOf_entryConditionIssues n.entry).countWarnings_eq
  have unreachable := (allOf_unreachableIssues g).countWarnings_eq
  have loops := (allOf_loopIssues g).countWarnings_eq
  simp only [graphIssues, countWarnings_append, orphans, sums, chains, missing, conditions,
    unreachable, loops, Nat.add_zero]

end Validation

/-- The verdicts on a graph that was built up by additions: it is valid just when it is clean, and
ready for export when, besides, the nodes without edges and the quests whose probabilities miss 100
are together fewer than the warnings at which the policy refuses. -/
theorem Graph.validate_verdicts {g : Graph} (grown : g.Grown) (policy : ValidationPolicy) :
    ((g.validate policy).isValid = true ↔ g.Clean) ∧
    ((g.validate policy).exportReady = true ↔ g.Clean ∧
      (List.range g.nodes.size).countP (g.Edgeless ·)
        + (g.entries.countP fun e => e.quest?.any (deviates policy)) < policy.maxWarnings) := by
  rw [Graph.validate, isValid_ofIssues_iff, exportReady_ofIssues_iff,
    noErrors_graphIssues_iff grown.coherent, countWarnings_graphIssues grown.coherent]
  exact ⟨Iff.rfl, Iff.rfl⟩

/-- A quest whose likelihoods add up to 90. -/
def Quest.search : Quest :=
  { id := "search", title := "Search", description := "Look for the lamp."
    outcomes := [
      { kind := .success, description := "It is there.", probability := 60.0 },
      { kind := .failure, description := "It is gone.", probability := 30.0 }] }

def Quest.descent : Quest :=
  { id := "descent", title := "Descent", description := "Climb down the well."
    prerequisites := [.questCompleted "search"]
    outcomes := [
      { kind := .success, description := "Out again."
        conditions := [.of "item" "has" "lamp" (.bool true)], probability := 60.5 },
      { kind := .failure, description := "Lost.", probability := 39.5 }] }

/-- An arc with both quests, and two dialogues, of which one hangs together with nothing. -/
def Graph.sketch : Graph :=
  (((((((empty.addNode (.storyArc { id := "arc" })).addNode (.quest .search)).addNode
    (.quest .descent)).addNode (.dialogue {
      id := "said", conditions := [.of "flag" "eq" "lit" (.bool true)] })).addNode
    (.dialogue { id := "unsaid" })).addEdge
    { source := 0, target := 1, kind := .belongsTo }).addEdge
    { source := 0, target := 2, kind := .belongsTo }).addEdge
    { source := 1, target := 3, kind := .outcome }

/-- The sketch with the descent chained to the search. -/
def Graph.scene : Graph := sketch.addEdge { source := 1, target := 2, kind := .prerequisite }

def Graph.mute : Graph := empty.addNode (.quest { Quest.search with description := " " })

def Graph.shapeless : Graph := empty.addNode (.dialogue { id := "said", conditions := [{}] })

theorem Graph.grown_sketch : sketch.Grown :=
  .addEdge _ (.addEdge _ (.addEdge _ (.addNode _ (.addNode _ (.addNode _ (.addNode _
    (.addNode _ .empty)))))
    (by decide) (by decide)) (by decide) (by decide)) (by decide) (by decide)

theorem Graph.grown_scene : scene.Grown := .addEdge _ grown_sketch (by decide) (by decide)

theorem Graph.entries_sketch : sketch.entries =
    [.storyArc { id := "arc" }, .quest .search, .quest .descent,
      .dialogue { id := "said", conditions := [.of "flag" "eq" "lit" (.bool true)] },
      .dialogue { id := "unsaid" }] := by
  simp only [sketch, entries_addEdge, entries_addNode]
  rfl

theorem Graph.entries_scene : scene.entries = sketch.entries := entries_addEdge ..

theorem Graph.forward_scene : ∀ e ∈ scene.edges, e.source < e.target ∧ e.target ≠ 0 := by decide

theorem Graph.clean_scene : scene.Clean := by
  have entries := entries_scene.trans entries_sketch
  have forward : ∀ i j, scene.LeadsTo i j → i < j := by
    intro i j leads
    obtain ⟨e, he, rfl, rfl⟩ := (grown_scene.coherent.mem_children_iff i j).1 leads
    exact (forward_scene e he).1
  have quests : ∀ (i : Nat) (q : Quest), scene.entries[i]? = some (.quest q) →
      i = 1 ∧ q = .search ∨ i = 2 ∧ q = .descent := by
    intro i q here
    rw [entries] at here
    rcases i with _ | _ | _ | _ | _ | i <;> simp_all
  have entrance : scene.IsEntryPoint 0 :=
    ⟨⟨_, congrArg (·[0]?) entries⟩, fun e he => (forward_scene e he).2⟩
  exact {
    acyclic := fun c cycle => not_isClosedWalk_of_forward forward c cycle.1
    reached := by
      intro i inside hasEdge
      change i < 5 at inside
      have search : scene.LeadsTo 0 1 := by change 1 ∈ scene.children 0; decide
      obtain rfl | rfl | rfl | rfl | rfl : i = 0 ∨ i = 1 ∨ i = 2 ∨ i = 3 ∨ i = 4 := by omega
      · exact ⟨0, entrance, .refl⟩
      · exact ⟨0, entrance, .single search⟩
      · exact ⟨0, entrance, .single (by change 2 ∈ scene.children 0; decide)⟩
      · exact ⟨0, entrance, .tail (.single search) (by change 3 ∈ scene.children 1; decide)⟩
      · exact absurd (by decide) hasEdge
    wired := by
      intro i q here requires
      rcases quests i q here with ⟨rfl, rfl⟩ | ⟨rfl, rfl⟩
      · exact absurd rfl requires
      · decide
    found := by
      intro i q here id hid
      rcases quests i q here with ⟨rfl, rfl⟩ | ⟨rfl, rfl⟩
      · cases hid
      · cases List.mem_singleton.1 hid
        rw [IsQuestId, entries]
        exact ⟨.search, rfl⟩
    proper := by
      rw [entries]
      decide
    wellMade := by
      intro i q here
      rcases quests i q here with ⟨rfl, rfl⟩ | ⟨rfl, rfl⟩
      · decide +kernel
      · decide +kernel }

theorem Graph.not_clean_sketch : ¬ sketch.Clean := by
  intro clean
  have unchained : ∀ e ∈ sketch.edges, e.kind ≠ .prerequisite := by decide
  obtain ⟨e, he, _, kind⟩ := clean.wired 2 .descent (congrArg (·[2]?) entries_sketch)
    (List.cons_ne_nil _ _)
  exact unchained e he kind

theorem Graph.not_clean_mute : ¬ mute.Clean := by
  intro clean
  exact absurd (clean.wellMade 0 _ rfl) (by decide +kernel)

theorem Graph.not_clean_shapeless : ¬ shapeless.Clean := by
  intro clean
  exact absurd (clean.proper _ (.head _) {} (.head _)) (by decide)

theorem Graph.scene_verdicts : scene.Grown ∧
    (scene.validate { maxWarnings := 3 }).exportReady = true ∧
    (scene.validate { maxWarnings := 2 }).isValid = true ∧
    (scene.validate { maxWarnings := 2 }).exportReady ≠ true ∧
    (scene.validate { maxWarnings := 2, tolerance := 10.0 }).exportReady = true ∧
    (sketch.validate {}).isValid ≠ true ∧ (mute.validate {}).isValid ≠ true ∧
    (shapeless.validate {}).isValid ≠ true := by
  have alone : (List.range scene.nodes.size).countP (scene.Edgeless ·) = 1 := by decide
  have short : ∀ n, (scene.entries.countP fun e =>
      e.quest?.any (deviates { maxWarnings := n })) = 1 := by
    intro n
    rw [entries_scene, entries_sketch]
    change List.countP (fun e : Entry => e.quest?.any (deviates {})) _ = 1
    decide +kernel
  have close : (scene.entries.countP fun e =>
      e.quest?.any (deviates { maxWarnings := 2, tolerance := 10.0 })) = 0 := by
    rw [entries_scene, entries_sketch]
    decide +kernel
  obtain ⟨_, ready⟩ := validate_verdicts grown_scene { maxWarnings := 3 }
  obtain ⟨valid, unready⟩ := validate_verdicts grown_scene { maxWarnings := 2 }
  obtain ⟨_, lenient⟩ := validate_verdicts grown_scene { maxWarnings := 2, tolerance := 10.0 }
  refine ⟨grown_scene, ready.2 ⟨clean_scene, ?_⟩, valid.2 clean_scene, ?_,
    lenient.2 ⟨clean_scene, ?_⟩, ?_, ?_, ?_⟩
  · rw [alone, short]
    decide
  · intro granted
    have few := (unready.1 granted).2
    rw [alone, short] at few
    exact absurd few (by decide)
  · rw [alone, close]
    decide
  · exact mt (validate_verdicts grown_sketch {}).1.1 not_clean_sketch
  · exact mt (validate_verdicts (.addNode _ .empty) {}).1.1 not_clean_mute
  · exact mt (validate_verdicts (.addNode _ .empty) {}).1.1 not_clean_shapeless

end Storyline
