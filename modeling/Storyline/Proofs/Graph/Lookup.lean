import Mathlib.Data.List.Nodup
import Storyline.Proofs.Graph.Wiring

/-!
Records looked up by identifier. An identifier leads to the first record that has it, whatever its
kind; a record of another kind hides those behind it. Where no two records have the same identifier,
each is found.
-/
namespace Storyline

theorem Entry.eq_of_quest? {e : Entry} {q : Quest} (h : e.quest? = some q) : e = .quest q := by
  cases e <;> cases h
  rfl

namespace Graph

variable {g : Graph} {e f : Entry} {id : RecordId} {i j : Nat}

theorem Coherent.exists_findKind?_iff (coherent : g.Coherent) (id : RecordId) (e : Entry) :
    (∃ i, g.findKind? id e.kind = some i ∧ g.entries[i]? = some e) ↔
      g.entries.find? (·.id = id) = some e := by
  simp only [findKind?, Option.filter_eq_some_iff, List.find?_eq_bind_findIdx?_getElem?,
    Option.bind_eq_some_iff, ← coherent.find?_eq]
  constructor
  · rintro ⟨i, ⟨first, _⟩, here⟩
    exact ⟨i, first, here⟩
  · rintro ⟨i, first, here⟩
    refine ⟨i, ⟨first, ?_⟩, here⟩
    rw [getElem?_entries] at here
    obtain ⟨n, node, rfl⟩ := Option.map_eq_some_iff.1 here
    simp [node, Node.kind]

theorem idOf_eq (here : g.entries[i]? = some e) : g.idOf i = e.id := by
  rw [getElem?_entries] at here
  obtain ⟨n, node, rfl⟩ := Option.map_eq_some_iff.1 here
  rw [idOf, node]
  rfl

def DistinctIds (g : Graph) : Prop := (g.entries.map Entry.id).Nodup

namespace DistinctIds

theorem index_eq (distinct : g.DistinctIds) (hi : g.entries[i]? = some e)
    (hj : g.entries[j]? = some f) (same : e.id = f.id) : i = j := by
  have inside : i < (g.entries.map Entry.id).length := by
    simpa using (List.getElem?_eq_some_iff.1 hi).1
  refine (List.getElem?_inj inside distinct).1 ?_
  rw [List.getElem?_map, List.getElem?_map, hi, hj, Option.map_some, Option.map_some, same]

theorem find?_eq_some_iff (distinct : g.DistinctIds) :
    g.entries.find? (·.id = id) = some e ↔ e ∈ g.entries ∧ e.id = id := by
  constructor
  · intro found
    exact ⟨List.mem_of_find?_eq_some found, by simpa using List.find?_some found⟩
  · rintro ⟨there, rfl⟩
    have some_found : (g.entries.find? (·.id = e.id)).isSome = true :=
      List.find?_isSome.2 ⟨e, there, by simp⟩
    obtain ⟨f, found⟩ := Option.isSome_iff_exists.1 some_found
    have same : f.id = e.id := by simpa using List.find?_some found
    rw [found, List.inj_on_of_nodup_map distinct (List.mem_of_find?_eq_some found) there same]

theorem findKind?_eq_some_iff (distinct : g.DistinctIds) (coherent : g.Coherent)
    {kind : NodeKind} : g.findKind? id kind = some i ↔
      ∃ e, g.entries[i]? = some e ∧ e.id = id ∧ e.kind = kind := by
  constructor
  · intro found
    obtain ⟨first, test⟩ := Option.filter_eq_some_iff.1 found
    rw [coherent.find?_eq] at first
    obtain ⟨inside, same, _⟩ := List.findIdx?_eq_some_iff_getElem.1 first
    have here := List.getElem?_eq_getElem inside
    refine ⟨g.entries[i], here, by simpa using same, ?_⟩
    rw [getElem?_entries] at here
    obtain ⟨n, node, entry⟩ := Option.map_eq_some_iff.1 here
    simpa [node, Node.kind, entry] using test
  · rintro ⟨e, here, rfl, rfl⟩
    have found := distinct.find?_eq_some_iff.2 ⟨List.mem_of_getElem? here, rfl⟩
    obtain ⟨j, found, there⟩ := (coherent.exists_findKind?_iff e.id e).2 found
    rw [found, distinct.index_eq here there rfl]

theorem nodup_quests (distinct : g.DistinctIds) : (g.quests.map (·.2.id)).Nodup := by
  have ids : g.quests.map (·.2.id) = (g.entries.filterMap Entry.quest?).map Quest.id := by
    rw [← map_snd_quests, List.map_map]
    rfl
  rw [ids, List.Nodup, List.pairwise_map, List.pairwise_filterMap]
  refine (List.pairwise_map.1 distinct).imp ?_
  intro e f apart q hq r hr
  rwa [Entry.eq_of_quest? hq, Entry.eq_of_quest? hr] at apart

end DistinctIds

end Graph

end Storyline
