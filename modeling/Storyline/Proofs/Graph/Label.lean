import Storyline.Proofs.Graph.Lookup
import Storyline.Proofs.Json.Scalar

/-!
The identifiers of edges. They are put together from the identifiers of records, which may be any
text at all, so what stands between the separators does not tell one edge from another. The number
after the last separator does, because there is no separator among digits.
-/
namespace Storyline

def Edge.numberIn (id : String) : Nat :=
  Decimal.naturalOf (id.toList.reverse.takeWhile (· ≠ '#')).reverse

theorem Edge.numberIn_append (stem : String) (n : Nat) :
    numberIn (stem ++ "#" ++ toString n) = n := by
  have noMark : ∀ c ∈ (Nat.toDigits 10 n).reverse, decide (c ≠ '#') = true := by
    intro c here
    have digit := Json.isDigit_toDigits (List.mem_reverse.1 here)
    apply decide_eq_true
    rintro rfl
    cases digit
  -- read from the end, the text holds digits up to the last separator, whatever the stem is
  have last : (stem ++ "#" ++ toString n).toList.reverse =
      (Nat.toDigits 10 n).reverse ++ '#' :: stem.toList.reverse := by
    simp
  rw [numberIn, last, List.takeWhile_append_of_pos noMark, List.takeWhile_cons_of_neg (by decide),
    List.append_nil, List.reverse_reverse, Json.naturalOf_toDigits]

namespace Graph

variable {g : Graph} {i : Nat}

/-- The identifier of each edge names its kind, its ends and its place among the edges. -/
def Labelled (g : Graph) : Prop :=
  ∀ (k : Nat) e, g.edges[k]? = some e →
    e.id = e.kind.name ++ ":" ++ g.idOf e.source ++ "->" ++ g.idOf e.target ++ "#" ++ toString k

theorem idOf_eq_getD (g : Graph) (i : Nat) : g.idOf i = (g.entries[i]?.map Entry.id).getD "" := by
  rw [getElem?_entries, Option.map_map]
  rfl

theorem idOf_addNode (e : Entry) (inside : i < g.nodes.size) :
    (g.addNode e).idOf i = g.idOf i := by
  have old : i < g.entries.length := by simpa using inside
  rw [idOf_eq_getD, idOf_eq_getD, entries_addNode, List.getElem?_append_left old]

theorem idOf_addEdge (l : Link) (i : Nat) : (g.addEdge l).idOf i = g.idOf i := by
  rw [idOf_eq_getD, idOf_eq_getD, entries_addEdge]

namespace Labelled

theorem empty : Graph.empty.Labelled := by
  intro k e none
  cases none

theorem addNode (labelled : g.Labelled)
    (inside : ∀ e ∈ g.edges, e.source < g.nodes.size ∧ e.target < g.nodes.size) (entry : Entry) :
    (g.addNode entry).Labelled := by
  intro k e here
  have old : g.edges[k]? = some e := here
  obtain ⟨source, target⟩ := inside e (Array.mem_of_getElem? old)
  rw [idOf_addNode entry source, idOf_addNode entry target]
  exact labelled k e old

theorem addEdge (labelled : g.Labelled) (l : Link) : (g.addEdge l).Labelled := by
  intro k e here
  rw [idOf_addEdge, idOf_addEdge]
  rw [edges_addEdge, Array.getElem?_push] at here
  split at here
  next new =>
    subst new
    cases here
    rfl
  next => exact labelled k e here

end Labelled

theorem Grown.labelled (grown : g.Grown) : g.Labelled := by
  induction grown with
  | empty => exact .empty
  | addNode entry grown ih => exact ih.addNode grown.coherent.ends_inside entry
  | addEdge l _ _ _ ih => exact ih.addEdge l

theorem Labelled.numberIn_id (labelled : g.Labelled) {k : Nat} {e : Edge}
    (here : g.edges[k]? = some e) : Edge.numberIn e.id = k := by
  rw [labelled k e here, Edge.numberIn_append]

theorem Labelled.nodup_ids (labelled : g.Labelled) : (g.edges.toList.map (·.id)).Nodup := by
  have numbers : (g.edges.toList.map (·.id)).map Edge.numberIn = List.range g.edges.size := by
    apply List.ext_getElem
    · simp
    · intro k h _
      have inside : k < g.edges.size := by simpa using h
      simpa using labelled.numberIn_id (Array.getElem?_eq_getElem inside)
  have distinct : ((g.edges.toList.map (·.id)).map Edge.numberIn).Nodup :=
    numbers ▸ List.nodup_range
  exact distinct.of_map

/-- In a graph that was built up by additions no two edges have the same identifier, whatever the
identifiers of the records are. Each names the kind and the ends of its edge, and the number in it
leads back to the edge. -/
theorem Grown.edges_told_apart (grown : g.Grown) :
    (g.edges.toList.map (·.id)).Nodup ∧ g.Labelled ∧
    ∀ e ∈ g.edges, g.edges[Edge.numberIn e.id]? = some e := by
  have labelled := grown.labelled
  refine ⟨labelled.nodup_ids, labelled, fun e he => ?_⟩
  obtain ⟨k, here⟩ := Array.mem_iff_getElem?.1 he
  rwa [labelled.numberIn_id here]

def way (source target : Nat) : Link := { source, target, kind := .outcome }

/-- Quests whose identifiers hold separators, joined so that all edges read the same up to the last
one: two edges run between the same nodes, one between others, and one to a node of the same
identifier. -/
def fords : Graph :=
  [way 0 1, way 0 1, way 2 3, way 0 4].foldl Graph.addEdge
    (ofEntries (["a->b#1", "mill", "a", "b#1->mill", "mill"].map fun id => .quest { id }))

theorem fords_told_apart : fords.Grown ∧
    fords.edges.toList.map (·.id) = ["outcome:a->b#1->mill#0", "outcome:a->b#1->mill#1",
      "outcome:a->b#1->mill#2", "outcome:a->b#1->mill#3"] ∧
    (fords.edges.toList.map (·.id)).Nodup := by
  have grown : fords.Grown := (grown_ofEntries _).foldl_addEdge (by unfold Spans; decide)
  exact ⟨grown, by decide, grown.edges_told_apart.1⟩

end Graph

end Storyline
