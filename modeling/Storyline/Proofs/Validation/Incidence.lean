import Storyline.Proofs.Validation.QuestReport

/-!
The count of edges in the report on one quest, against the edges of the graph. An edge from the quest
to itself is among those that enter and among those that leave, so it counts twice; all others count
once, whatever their kind and however many run between the same two nodes.
-/
namespace Storyline

def Edge.touches (e : Edge) (i : Nat) : Bool := e.source = i || e.target = i

def Edge.isLoopAt (e : Edge) (i : Nat) : Bool := e.source = i && e.target = i

theorem countP_target_add_countP_source (es : List Edge) (i : Nat) :
    es.countP (·.target = i) + es.countP (·.source = i) =
      es.countP (·.touches i) + es.countP (·.isLoopAt i) := by
  induction es with
  | nil => rfl
  | cons e es ih =>
    have ends : ((if e.target = i then 1 else 0) + if e.source = i then 1 else 0) =
        (if e.touches i then 1 else 0) + if e.isLoopAt i then 1 else 0 := by
      by_cases leaves : e.source = i <;> by_cases enters : e.target = i <;>
        simp [Edge.touches, Edge.isLoopAt, leaves, enters]
    simp only [List.countP_cons, decide_eq_true_eq]
    omega

namespace Graph

variable {g : Graph} {i : Nat} {q : Quest} {id : RecordId}

theorem Coherent.length_edgesAround (coherent : g.Coherent) (i : Nat) :
    (g.edgesAround i).length = g.edges.countP (·.touches i) + g.edges.countP (·.isLoopAt i) := by
  have entering : (g.edgesTo i).length = g.edges.toList.countP (·.target = i) := by
    rw [coherent.edgesTo_eq, List.countP_eq_length_filter]
  have leaving : (g.edgesFrom i).length = g.edges.toList.countP (·.source = i) := by
    rw [coherent.edgesFrom_eq, List.countP_eq_length_filter]
  rw [edgesAround, List.length_append, entering, leaving, countP_target_add_countP_source,
    Array.countP_toList, Array.countP_toList]

theorem exists_quest_of_validateQuest {r : ValidationReport} (validated : g.validateQuest id = .ok r) :
    ∃ i q, g.findKind? id .quest = some i ∧ g.entries[i]? = some (.quest q) ∧
      r.summary.totalEdges = (g.edgesAround i).length := by
  cases found : g.findKind? id .quest with
  | none =>
    rw [validateQuest_eq_error_iff.2 found] at validated
    cases validated
  | some i =>
    obtain ⟨_, q, here⟩ := findKind?_quest_eq_some_iff.1 found
    rw [validateQuest_eq_ok found here, Except.ok.injEq] at validated
    subst validated
    exact ⟨i, q, rfl, here, rfl⟩

/-- In a graph that was built up by additions the report on a quest counts each edge at the node of
the quest once, and those that run from the node to itself once more. So the count is that of the
edges at the node just where none of them is a loop. There is a report for each identifier that
leads to a quest. -/
theorem validateQuest_counts_edges (grown : g.Grown) (id : RecordId) :
    ((∃ r, g.validateQuest id = .ok r) ↔ ∃ i, g.findKind? id .quest = some i) ∧
    ∀ r, g.validateQuest id = .ok r → ∃ i q, g.findKind? id .quest = some i ∧
      g.entries[i]? = some (.quest q) ∧
      r.summary.totalEdges = g.edges.countP (·.touches i) + g.edges.countP (·.isLoopAt i) ∧
      (r.summary.totalEdges = g.edges.countP (·.touches i) ↔
        ∀ e ∈ g.edges, ¬ (e.source = i ∧ e.target = i)) := by
  refine ⟨⟨?_, ?_⟩, ?_⟩
  · rintro ⟨r, validated⟩
    obtain ⟨i, _, found, _⟩ := exists_quest_of_validateQuest validated
    exact ⟨i, found⟩
  · rintro ⟨i, found⟩
    obtain ⟨_, q, here⟩ := findKind?_quest_eq_some_iff.1 found
    exact ⟨_, validateQuest_eq_ok found here⟩
  · intro r validated
    obtain ⟨i, q, found, here, total⟩ := exists_quest_of_validateQuest validated
    rw [grown.coherent.length_edgesAround] at total
    refine ⟨i, q, found, here, total, ?_⟩
    have noLoop : g.edges.countP (·.isLoopAt i) = 0 ↔
        ∀ e ∈ g.edges, ¬ (e.source = i ∧ e.target = i) := by
      rw [Array.countP_eq_zero]
      simp [Edge.isLoopAt]
    rw [← noLoop, total]
    omega

/-- An arc that holds a wheel twice over; the wheel leads to itself and requires itself. -/
def mill : Graph :=
  (((((empty.addNode (.storyArc { id := "arc" })).addNode (.quest { id := "wheel" })).addEdge
    { source := 0, target := 1, kind := .belongsTo }).addEdge
    { source := 0, target := 1, kind := .belongsTo }).addEdge
    { source := 1, target := 1, kind := .outcome }).addEdge
    { source := 1, target := 1, kind := .prerequisite }

theorem grown_mill : mill.Grown :=
  .addEdge _ (.addEdge _ (.addEdge _ (.addEdge _ (.addNode _ (.addNode _ .empty)) (by decide)
    (by decide)) (by decide) (by decide)) (by decide) (by decide)) (by decide) (by decide)

theorem mill_counts_edges : mill.Grown ∧ ∃ r, mill.validateQuest "wheel" = .ok r ∧
    r.summary.totalEdges = 4 + 2 ∧ mill.edges.size = 4 := by
  obtain ⟨⟨_, reported⟩, counts⟩ := validateQuest_counts_edges grown_mill "wheel"
  obtain ⟨r, validated⟩ := reported ⟨1, by decide⟩
  obtain ⟨i, q, found, _, total, _⟩ := counts r validated
  obtain rfl : i = 1 := by
    have wheel : mill.findKind? "wheel" .quest = some 1 := by decide
    rw [wheel] at found
    exact (Option.some.inj found).symm
  exact ⟨grown_mill, r, validated, total.trans (by decide), by decide⟩

end Graph

def Project.retrial : Project :=
  { storyArcs := [{ id := "arc" }]
    quests :=
      [{ id := "retry", storyArc := some "arc",
         outcomes := [{ kind := .success, description := "done", nextQuest := some "retry" }] }] }

theorem Project.retry_counted_twice : (Graph.ofProject retrial).Grown ∧
    (Graph.ofProject retrial).find? "retry" = some 1 ∧
    (Graph.ofProject retrial).edges.countP (·.touches 1) = 2 ∧
    retrial.validate.summary.totalEdges = 2 ∧
    ∃ r, (Graph.ofProject retrial).validateQuest "retry" = .ok r ∧ r.summary.totalEdges = 3 :=
  ⟨Graph.grown_ofProject retrial, by decide, by decide, by decide, _, rfl, by decide⟩

end Storyline
