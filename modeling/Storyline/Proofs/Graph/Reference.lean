import Storyline.Proofs.Graph.Wiring
import Storyline.Proofs.Graph.Reachability

/-!
The edges of the graph of lists of records, told from the records alone: each reference that
resolves gives one edge, and nothing else does. Edges run between certain kinds of records only, so
nothing leads to a story arc and a dialogue leads nowhere.
-/
namespace Storyline.Graph

def resolve? (es : List Entry) (kind : NodeKind) (id : RecordId) : Option Nat :=
  (es.findIdx? (·.id = id)).filter fun i => es[i]?.any (·.kind = kind)

/-- The edges that references give, quest by quest and then dialogue by dialogue. -/
def referenceLinks (arcs : List StoryArc) (quests : List Quest) (dialogues : List Dialogue) :
    List Link :=
  let toArc := resolve? (recordEntries arcs quests dialogues) .storyArc
  let toQuest := resolve? (recordEntries arcs quests dialogues) .quest
  (quests.zipIdx arcs.length).flatMap (fun (q, i) =>
    ((q.storyArc.bind toArc).map fun arc => ⟨arc, i, .belongsTo, none⟩).toList
      ++ q.prerequisites.filterMap (fun c => (c.referencedQuest?.bind toQuest).map fun required =>
        ⟨required, i, .prerequisite, some (.condition c)⟩)
      ++ q.outcomes.filterMap fun o => (o.nextQuest.bind toQuest).map fun next =>
        ⟨i, next, .outcome, some (.outcome o)⟩)
  ++ (dialogues.zipIdx (arcs.length + quests.length)).filterMap fun (d, i) =>
    (d.quest.bind toQuest).map fun quest => ⟨quest, i, .belongsTo, none⟩

theorem resolve?_eq_some_iff {es : List Entry} {kind : NodeKind} {id : RecordId} {i : Nat} :
    resolve? es kind id = some i ↔ ∃ e, es[i]? = some e ∧ e.id = id ∧ e.kind = kind ∧
      ∀ j < i, ∀ f, es[j]? = some f → f.id ≠ id := by
  rw [resolve?, Option.filter_eq_some_iff, List.findIdx?_eq_some_iff_getElem]
  constructor
  · rintro ⟨⟨inside, same, first⟩, kind⟩
    have here := List.getElem?_eq_getElem inside
    refine ⟨es[i], here, by simpa using same, by simpa [here] using kind, ?_⟩
    intro j early f there
    obtain ⟨_, rfl⟩ := List.getElem?_eq_some_iff.1 there
    simpa using first j early
  · rintro ⟨e, here, same, kind, first⟩
    obtain ⟨inside, rfl⟩ := List.getElem?_eq_some_iff.1 here
    refine ⟨⟨inside, by simpa using same, fun j early => ?_⟩, by simpa [here] using kind⟩
    simpa using first j early _ (List.getElem?_eq_getElem (Nat.lt_trans early inside))

variable {g : Graph} {l : Link}

theorem Coherent.findKind?_eq_resolve? (coherent : g.Coherent) (id : RecordId) (kind : NodeKind) :
    g.findKind? id kind = resolve? g.entries kind id := by
  rw [findKind?, resolve?, coherent.find?_eq]
  simp only [getElem?_entries, Option.any_map]
  rfl

theorem Coherent.exists_of_findKind? (coherent : g.Coherent) {id : RecordId} {kind : NodeKind}
    {i : Nat} (found : g.findKind? id kind = some i) :
    ∃ e, g.entries[i]? = some e ∧ e.kind = kind := by
  rw [coherent.findKind?_eq_resolve?] at found
  obtain ⟨e, here, _, kind, _⟩ := resolve?_eq_some_iff.1 found
  exact ⟨e, here, kind⟩

theorem bind_return_eq_map {α β : Type} (x : Option α) (f : α → Option β) (make : β → Link) :
    (do return make (← f (← x))) = (x.bind f).map make := by
  cases x with
  | none => rfl
  | some a =>
    change (f a).bind (fun b => some (make b)) = (f a).map make
    cases f a <;> rfl

section Lookup

variable (coherent : g.Coherent)

include coherent

theorem arcLink?_eq (q : Quest) (i : Nat) : g.arcLink? q i =
    (q.storyArc.bind (resolve? g.entries .storyArc)).map fun arc => ⟨arc, i, .belongsTo, none⟩ := by
  simp only [arcLink?, coherent.findKind?_eq_resolve?]
  exact bind_return_eq_map ..

theorem prerequisiteLink?_eq (i : Nat) (c : AuthoredCondition) : g.prerequisiteLink? i c =
    (c.referencedQuest?.bind (resolve? g.entries .quest)).map fun required =>
      ⟨required, i, .prerequisite, some (.condition c)⟩ := by
  simp only [prerequisiteLink?, coherent.findKind?_eq_resolve?]
  exact bind_return_eq_map ..

theorem outcomeLink?_eq (i : Nat) (o : Outcome) : g.outcomeLink? i o =
    (o.nextQuest.bind (resolve? g.entries .quest)).map fun next =>
      ⟨i, next, .outcome, some (.outcome o)⟩ := by
  simp only [outcomeLink?, coherent.findKind?_eq_resolve?]
  exact bind_return_eq_map ..

theorem dialogueLink?_eq (d : Dialogue) (i : Nat) : g.dialogueLink? d i =
    (d.quest.bind (resolve? g.entries .quest)).map fun quest => ⟨quest, i, .belongsTo, none⟩ := by
  simp only [dialogueLink?, coherent.findKind?_eq_resolve?]
  exact bind_return_eq_map ..

end Lookup

theorem edges_ofRecords_eq (arcs : List StoryArc) (quests : List Quest)
    (dialogues : List Dialogue) :
    (ofRecords arcs quests dialogues).edges.toList.map Edge.link =
      referenceLinks arcs quests dialogues := by
  have coherent := (grown_ofEntries (recordEntries arcs quests dialogues)).coherent
  rw [edges_ofRecords, links, referenceLinks]
  simp only [questLinks, arcLink?_eq coherent, funext (prerequisiteLink?_eq coherent _),
    funext (outcomeLink?_eq coherent _), dialogueLink?_eq coherent, entries_ofEntries]

theorem mem_edges_ofRecords {arcs : List StoryArc} {quests : List Quest}
    {dialogues : List Dialogue} {e : Edge} (he : e ∈ (ofRecords arcs quests dialogues).edges) :
    (ofRecords arcs quests dialogues).Wires e.link :=
  (mem_links_ofProject_iff (p := { storyArcs := arcs, quests, dialogues })).1
    (List.mem_map_of_mem (Array.mem_toList_iff.2 he))

/-! Which kinds of records an edge runs between. -/

theorem Wires.target_ne_arc (wires : g.Wires l) (a : StoryArc) :
    g.entries[l.target]? ≠ some (.storyArc a) := by
  intro arc
  cases wires with
  | arc here => rw [arc] at here; cases here
  | prerequisite here => rw [arc] at here; cases here
  | outcome _ _ _ found =>
    obtain ⟨_, q, there⟩ := findKind?_quest_eq_some_iff.1 found
    rw [arc] at there
    cases there
  | dialogue here => rw [arc] at here; cases here

theorem Wires.source_ne_dialogue (coherent : g.Coherent) (wires : g.Wires l) (d : Dialogue) :
    g.entries[l.source]? ≠ some (.dialogue d) := by
  intro dialogue
  have never {id : RecordId} {kind : NodeKind} {i : Nat} (found : g.findKind? id kind = some i)
      (here : g.entries[i]? = some (.dialogue d)) : kind = .dialogue := by
    obtain ⟨e, there, rfl⟩ := coherent.exists_of_findKind? found
    rw [here] at there
    cases there
    rfl
  cases wires with
  | arc _ _ found => cases never found dialogue
  | prerequisite _ _ _ found => cases never found dialogue
  | outcome here => rw [dialogue] at here; cases here
  | dialogue _ _ found => cases never found dialogue

theorem Wires.kind_of_quests (coherent : g.Coherent) (wires : g.Wires l) {q r : Quest}
    (source : g.entries[l.source]? = some (.quest q))
    (target : g.entries[l.target]? = some (.quest r)) :
    l.kind = .prerequisite ∨ l.kind = .outcome := by
  cases wires with
  | arc _ _ found =>
    obtain ⟨e, there, kind⟩ := coherent.exists_of_findKind? found
    rw [source] at there
    cases there
    cases kind
  | prerequisite => exact .inl rfl
  | outcome => exact .inr rfl
  | dialogue here => rw [target] at here; cases here

theorem exists_quest_of_between (coherent : g.Coherent)
    (wired : ∀ e ∈ g.edges, g.Wires e.link) {i j k : Nat} (into : g.LeadsTo i j)
    (onward : g.LeadsTo j k) : ∃ q, g.entries[j]? = some (.quest q) := by
  obtain ⟨e, he, _, rfl⟩ := (coherent.mem_children_iff i j).1 into
  obtain ⟨f, hf, same, _⟩ := (coherent.mem_children_iff _ k).1 onward
  have inside : e.target < g.entries.length := by
    rw [length_entries]
    exact (coherent.ends_inside e he).2
  have here := List.getElem?_eq_getElem inside
  cases entry : g.entries[e.target] with
  | storyArc a => exact absurd (here.trans (congrArg some entry)) ((wired e he).target_ne_arc a)
  | quest q => exact ⟨q, here.trans (congrArg some entry)⟩
  | dialogue d =>
    refine absurd ?_ ((wired f hf).source_ne_dialogue coherent d)
    change g.entries[f.source]? = _
    rw [same]
    exact here.trans (congrArg some entry)

theorem exists_quest_of_return (coherent : g.Coherent)
    (wired : ∀ e ∈ g.edges, g.Wires e.link) {v : Nat}
    (walk : Relation.TransGen g.LeadsTo v v) : ∃ q, g.entries[v]? = some (.quest q) := by
  obtain ⟨w, onward, _⟩ := Relation.TransGen.head'_iff.1 walk
  obtain ⟨u, _, into⟩ := Relation.TransGen.tail'_iff.1 walk
  exact exists_quest_of_between coherent wired into onward

theorem mem_roots_ofRecords_iff {arcs : List StoryArc} {quests : List Quest}
    {dialogues : List Dialogue} {i : Nat} :
    i ∈ (ofRecords arcs quests dialogues).roots ↔ i < arcs.length := by
  have coherent := (grown_ofRecords arcs quests dialogues).coherent
  rw [coherent.mem_roots_iff, IsEntryPoint, entries_ofRecords, recordEntries]
  constructor
  · rintro ⟨⟨a, here⟩, _⟩
    by_contra late
    rw [List.append_assoc, List.getElem?_append_right (by simpa using late)] at here
    simpa using List.mem_of_getElem? here
  · intro early
    have here : (ofRecords arcs quests dialogues).entries[i]? = some (.storyArc arcs[i]) := by
      rw [entries_ofRecords, recordEntries, List.append_assoc,
        List.getElem?_append_left (by simpa using early), List.getElem?_map,
        List.getElem?_eq_getElem early, Option.map_some]
    refine ⟨⟨arcs[i], by simpa [recordEntries] using here⟩, ?_⟩
    rintro e he rfl
    exact (mem_edges_ofRecords he).target_ne_arc _ here

end Storyline.Graph
