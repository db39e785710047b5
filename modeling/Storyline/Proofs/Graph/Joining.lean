import Storyline.Proofs.Graph.Cycle
import Storyline.Proofs.Graph.Lookup
import Storyline.Proofs.Graph.Reachability

/-!
A graph by the identifiers of its records. Where these are distinct, all that matters of the edges
can be said without the numbers of nodes and edges: who is joined to whom, where the story can be
entered, what it leads to, and whether it runs in a circle. In the graph of a project the
identifiers that are joined are those that refer to each other.
-/
namespace Storyline.Graph

open Relation

def Joins (g : Graph) (kind : EdgeKind) (a b : RecordId) : Prop :=
  ∃ e ∈ g.edges, e.kind = kind ∧ g.idOf e.source = a ∧ g.idOf e.target = b

def Precedes (g : Graph) (a b : RecordId) : Prop := ∃ kind, g.Joins kind a b

def IsEntrance (g : Graph) (id : RecordId) : Prop :=
  (∃ a, .storyArc a ∈ g.entries ∧ a.id = id) ∧ ∀ b, ¬ g.Precedes b id

variable {g : Graph} {i j : Nat} {a b : RecordId}

theorem exists_entry_of_lt (inside : i < g.nodes.size) :
    ∃ e, g.entries[i]? = some e ∧ e.id = g.idOf i := by
  have here := List.getElem?_eq_getElem (g.length_entries ▸ inside)
  exact ⟨_, here, (idOf_eq here).symm⟩

theorem DistinctIds.idOf_inj (distinct : g.DistinctIds) (hi : i < g.nodes.size)
    (hj : j < g.nodes.size) (same : g.idOf i = g.idOf j) : i = j := by
  obtain ⟨e, here, id_i⟩ := exists_entry_of_lt hi
  obtain ⟨f, there, id_j⟩ := exists_entry_of_lt hj
  exact distinct.index_eq here there (id_i.trans (same.trans id_j.symm))

theorem Coherent.precedes_iff (coherent : g.Coherent) :
    g.Precedes a b ↔ ∃ i j, g.LeadsTo i j ∧ g.idOf i = a ∧ g.idOf j = b := by
  constructor
  · rintro ⟨_, e, he, rfl, rfl, rfl⟩
    exact ⟨_, _, (coherent.mem_children_iff ..).2 ⟨e, he, rfl, rfl⟩, rfl, rfl⟩
  · rintro ⟨i, j, leads, rfl, rfl⟩
    obtain ⟨e, he, rfl, rfl⟩ := (coherent.mem_children_iff i j).1 leads
    exact ⟨_, e, he, rfl, rfl, rfl⟩

theorem Coherent.lt_of_transGen (coherent : g.Coherent) (walk : TransGen g.LeadsTo i j) :
    i < g.nodes.size ∧ j < g.nodes.size := by
  obtain ⟨_, first, _⟩ := TransGen.head'_iff.1 walk
  obtain ⟨_, _, last⟩ := TransGen.tail'_iff.1 walk
  exact ⟨Graph.lt_of_leadsTo first, coherent.lt_of_leadsTo last⟩

section Distinct

variable (coherent : g.Coherent) (distinct : g.DistinctIds)

include coherent distinct

theorem enters_iff (inside : i < g.nodes.size) (kind : EdgeKind) :
    (∃ e ∈ g.edges, e.target = i ∧ e.kind = kind) ↔ ∃ a, g.Joins kind a (g.idOf i) := by
  constructor
  · rintro ⟨e, he, rfl, rfl⟩
    exact ⟨_, e, he, rfl, rfl, rfl⟩
  · rintro ⟨_, e, he, rfl, rfl, same⟩
    exact ⟨e, he, distinct.idOf_inj (coherent.ends_inside e he).2 inside same, rfl⟩

theorem untouched_iff (inside : i < g.nodes.size) :
    (∀ e ∈ g.edges, e.target ≠ i) ↔ ∀ a, ¬ g.Precedes a (g.idOf i) := by
  constructor
  · rintro none a ⟨_, e, he, rfl, rfl, same⟩
    exact none e he (distinct.idOf_inj (coherent.ends_inside e he).2 inside same)
  · rintro none e he rfl
    exact none _ ⟨_, e, he, rfl, rfl, rfl⟩

theorem edgeless_iff (inside : i < g.nodes.size) :
    g.Edgeless i ↔ ∀ a, ¬ g.Precedes (g.idOf i) a ∧ ¬ g.Precedes a (g.idOf i) := by
  constructor
  · intro none a
    constructor
    · rintro ⟨_, e, he, rfl, same, rfl⟩
      exact (none e he).1 (distinct.idOf_inj (coherent.ends_inside e he).1 inside same)
    · rintro ⟨_, e, he, rfl, rfl, same⟩
      exact (none e he).2 (distinct.idOf_inj (coherent.ends_inside e he).2 inside same)
  · intro none e he
    constructor
    · rintro rfl
      exact (none _).1 ⟨_, e, he, rfl, rfl, rfl⟩
    · rintro rfl
      exact (none _).2 ⟨_, e, he, rfl, rfl, rfl⟩

theorem exists_transGen_iff : TransGen g.Precedes a b ↔
    ∃ i j, TransGen g.LeadsTo i j ∧ g.idOf i = a ∧ g.idOf j = b := by
  constructor
  · intro walk
    induction walk with
    | single step =>
      obtain ⟨i, j, leads, from_a, to_b⟩ := coherent.precedes_iff.1 step
      exact ⟨i, j, .single leads, from_a, to_b⟩
    | tail _ step ih =>
      obtain ⟨i, j, walk, from_a, to_b⟩ := ih
      obtain ⟨k, l, leads, from_b, to_c⟩ := coherent.precedes_iff.1 step
      -- the walk so far ends where the step begins: only one node has that identifier
      obtain rfl : j = k := distinct.idOf_inj (coherent.lt_of_transGen walk).2
        (lt_of_leadsTo leads) (to_b.trans from_b.symm)
      exact ⟨i, l, walk.tail leads, from_a, to_c⟩
  · rintro ⟨i, j, walk, rfl, rfl⟩
    have steps (k l : Nat) (leads : g.LeadsTo k l) : g.Precedes (g.idOf k) (g.idOf l) :=
      coherent.precedes_iff.2 ⟨k, l, leads, rfl, rfl⟩
    exact TransGen.lift g.idOf steps _ _ walk

theorem transGen_precedes_iff (hi : i < g.nodes.size) (hj : j < g.nodes.size) :
    TransGen g.Precedes (g.idOf i) (g.idOf j) ↔ TransGen g.LeadsTo i j := by
  rw [exists_transGen_iff coherent distinct]
  constructor
  · rintro ⟨k, l, walk, same, same'⟩
    obtain ⟨hk, hl⟩ := coherent.lt_of_transGen walk
    obtain rfl := distinct.idOf_inj hk hi same
    obtain rfl := distinct.idOf_inj hl hj same'
    exact walk
  · intro walk
    exact ⟨i, j, walk, rfl, rfl⟩

theorem reflTransGen_precedes_iff (hi : i < g.nodes.size) (hj : j < g.nodes.size) :
    ReflTransGen g.Precedes (g.idOf i) (g.idOf j) ↔ ReflTransGen g.LeadsTo i j := by
  rw [reflTransGen_iff_eq_or_transGen, reflTransGen_iff_eq_or_transGen,
    transGen_precedes_iff coherent distinct hi hj]
  refine or_congr_left ⟨distinct.idOf_inj hj hi, congrArg g.idOf⟩

theorem acyclic_iff :
    (∀ v, ¬ TransGen g.LeadsTo v v) ↔ ∀ id, ¬ TransGen g.Precedes id id := by
  constructor
  · intro acyclic id walk
    obtain ⟨i, j, back, rfl, same⟩ := (exists_transGen_iff coherent distinct).1 walk
    obtain ⟨hi, hj⟩ := coherent.lt_of_transGen back
    obtain rfl := distinct.idOf_inj hj hi same
    exact acyclic _ back
  · intro acyclic v walk
    exact acyclic _ ((exists_transGen_iff coherent distinct).2 ⟨v, v, walk, rfl, rfl⟩)

theorem reached_iff (inside : i < g.nodes.size) :
    (∃ r, g.IsEntryPoint r ∧ ReflTransGen g.LeadsTo r i) ↔
      ∃ id, g.IsEntrance id ∧ ReflTransGen g.Precedes id (g.idOf i) := by
  constructor
  · rintro ⟨r, ⟨⟨arc, here⟩, alone⟩, walk⟩
    have small := lt_of_getElem?_entries here
    refine ⟨g.idOf r, ⟨⟨arc, List.mem_of_getElem? here, (idOf_eq here).symm⟩, ?_⟩, ?_⟩
    · exact (untouched_iff coherent distinct small).1 alone
    · exact (reflTransGen_precedes_iff coherent distinct small inside).2 walk
  · rintro ⟨_, ⟨⟨arc, mem, rfl⟩, alone⟩, walk⟩
    obtain ⟨r, here⟩ := List.mem_iff_getElem?.1 mem
    have small := lt_of_getElem?_entries here
    have id_r : g.idOf r = arc.id := idOf_eq here
    rw [← id_r] at alone walk
    refine ⟨r, ⟨⟨arc, here⟩, ?_⟩, ?_⟩
    · exact (untouched_iff coherent distinct small).2 alone
    · exact (reflTransGen_precedes_iff coherent distinct small inside).1 walk

end Distinct

/-! Who is joined to whom in the graph of a project. -/

/-- A record refers to another one, and which way the edge between them runs. -/
inductive Refers (es : List Entry) : EdgeKind → RecordId → RecordId → Prop where
  | arc {q : Quest} {a : StoryArc} : .quest q ∈ es → q.storyArc = some a.id → .storyArc a ∈ es →
      Refers es .belongsTo a.id q.id
  | prerequisite {q r : Quest} {c : AuthoredCondition} : .quest q ∈ es → c ∈ q.prerequisites →
      c.referencedQuest? = some r.id → .quest r ∈ es → Refers es .prerequisite r.id q.id
  | outcome {q r : Quest} {o : Outcome} : .quest q ∈ es → o ∈ q.outcomes →
      o.nextQuest = some r.id → .quest r ∈ es → Refers es .outcome q.id r.id
  | dialogue {d : Dialogue} {q : Quest} : .dialogue d ∈ es → d.quest = some q.id →
      .quest q ∈ es → Refers es .belongsTo q.id d.id

theorem Refers.mono {es fs : List Entry} (sub : ∀ e ∈ es, e ∈ fs) {kind : EdgeKind}
    (refers : Refers es kind a b) : Refers fs kind a b := by
  cases refers with
  | arc here names there => exact .arc (sub _ here) names (sub _ there)
  | prerequisite here among names there =>
    exact .prerequisite (sub _ here) among names (sub _ there)
  | outcome here among names there => exact .outcome (sub _ here) among names (sub _ there)
  | dialogue here names there => exact .dialogue (sub _ here) names (sub _ there)

theorem Wires.refers {l : Link} (coherent : g.Coherent) (distinct : g.DistinctIds)
    (wires : g.Wires l) : Refers g.entries l.kind (g.idOf l.source) (g.idOf l.target) := by
  have named {k : Nat} {e : Entry} (here : g.entries[k]? = some e) : e ∈ g.entries :=
    List.mem_of_getElem? here
  have quest {id : RecordId} {k : Nat} (found : g.findKind? id .quest = some k) :
      ∃ r : Quest, g.entries[k]? = some (.quest r) ∧ r.id = id :=
    coherent.exists_quest_of_findKind? found
  cases wires with
  | arc here names found =>
    obtain ⟨e, there, same, kind⟩ := (distinct.findKind?_eq_some_iff coherent).1 found
    cases e with
    | storyArc a =>
      cases same
      rw [idOf_eq here, idOf_eq there]
      exact .arc (named here) names (named there)
    | quest | dialogue => cases kind
  | prerequisite here among names found =>
    obtain ⟨r, there, rfl⟩ := quest found
    rw [idOf_eq here, idOf_eq there]
    exact .prerequisite (named here) among names (named there)
  | outcome here among names found =>
    obtain ⟨r, there, rfl⟩ := quest found
    rw [idOf_eq here, idOf_eq there]
    exact .outcome (named here) among names (named there)
  | dialogue here names found =>
    obtain ⟨r, there, rfl⟩ := quest found
    rw [idOf_eq here, idOf_eq there]
    exact .dialogue (named here) names (named there)

theorem Refers.exists_wires {kind : EdgeKind} (coherent : g.Coherent) (distinct : g.DistinctIds)
    (refers : Refers g.entries kind a b) :
    ∃ l, g.Wires l ∧ l.kind = kind ∧ g.idOf l.source = a ∧ g.idOf l.target = b := by
  have at_node {e : Entry} (there : e ∈ g.entries) :
      ∃ k, g.entries[k]? = some e ∧ g.findKind? e.id e.kind = some k ∧ g.idOf k = e.id := by
    obtain ⟨k, here⟩ := List.mem_iff_getElem?.1 there
    exact ⟨k, here, (distinct.findKind?_eq_some_iff coherent).2 ⟨e, here, rfl, rfl⟩, idOf_eq here⟩
  cases refers with
  | arc quest names arc =>
    obtain ⟨i, here, _, to_quest⟩ := at_node quest
    obtain ⟨j, _, found, from_arc⟩ := at_node arc
    exact ⟨_, .arc here names found, rfl, from_arc, to_quest⟩
  | prerequisite quest among names required =>
    obtain ⟨i, here, _, to_quest⟩ := at_node quest
    obtain ⟨j, _, found, from_required⟩ := at_node required
    exact ⟨_, .prerequisite here among names found, rfl, from_required, to_quest⟩
  | outcome quest among names next =>
    obtain ⟨i, here, _, from_quest⟩ := at_node quest
    obtain ⟨j, _, found, to_next⟩ := at_node next
    exact ⟨_, .outcome here among names found, rfl, from_quest, to_next⟩
  | dialogue dialogue names quest =>
    obtain ⟨i, here, _, to_dialogue⟩ := at_node dialogue
    obtain ⟨j, _, found, from_quest⟩ := at_node quest
    exact ⟨_, .dialogue here names found, rfl, from_quest, to_dialogue⟩

theorem joins_ofProject_iff {p : Project} (distinct : (ofProject p).DistinctIds)
    {kind : EdgeKind} : (ofProject p).Joins kind a b ↔ Refers (ofProject p).entries kind a b := by
  have coherent := (grown_ofProject p).coherent
  constructor
  · rintro ⟨e, he, rfl, rfl, rfl⟩
    have linked : e.link ∈ (ofProject p).edges.toList.map Edge.link :=
      List.mem_map_of_mem (Array.mem_toList_iff.2 he)
    exact (mem_links_ofProject_iff.1 linked).refers coherent distinct
  · intro refers
    obtain ⟨l, wires, rfl, rfl, rfl⟩ := refers.exists_wires coherent distinct
    obtain ⟨e, he, rfl⟩ := List.mem_map.1 (mem_links_ofProject_iff.2 wires)
    exact ⟨e, Array.mem_toList_iff.1 he, rfl, rfl, rfl⟩

end Storyline.Graph
