import Storyline.Proofs.Archive.Listing
import Storyline.Proofs.Archive.Writing

/-!
The two archives as one: a folder that nobody else writes to and a memory that gets the same
requests give the same answers, and the answers tell what was saved so far. What carries this is
that the folder holds, under the name of each identifier, the text of what the memory keeps there,
and nothing under any other spelling.
-/
namespace Storyline

namespace Archive

inductive Request where
  | save (t : Transcript)
  | load (id : Uuid)
  | list
  | loadMany (ids : List Uuid)

inductive Reply where
  | saved
  | one (t : Transcript)
  | listed (ids : List Uuid)
  | many (ts : List Transcript)

abbrev Answer := Except ArchiveError Reply

def answers {σ : Type} (handle : σ → Request → σ × Answer) : σ → List Request → List Answer
  | _, [] => []
  | s, r :: rest => (handle s r).2 :: answers handle (handle s r).1 rest

end Archive

open Archive

def MemoryArchive.handle (m : MemoryArchive) : Request → MemoryArchive × Answer
  | .save t => (m.save t, .ok .saved)
  | .load id => (m, (m.load id).map .one)
  | .list => (m, .ok (.listed m.list))
  | .loadMany ids => (m, (m.loadMany ids).map .many)

/-- A save that fails leaves the folder as it was. -/
def Folder.handle (f : Folder) : Request → Folder × Answer
  | .save t =>
    match f.save t with
    | .ok g => (g, .ok .saved)
    | .error e => (f, .error e)
  | .load id => (f, (f.load id).map .one)
  | .list => (f, .ok (.listed f.list))
  | .loadMany ids => (f, (f.loadMany ids).map .many)

namespace Archive

def lastSaved (saved : List Transcript) (id : Uuid) : Option Transcript :=
  saved.reverse.find? fun t => t.id = id

theorem lastSaved_append (saved : List Transcript) (t : Transcript) (id : Uuid) :
    lastSaved (saved ++ [t]) id = if id = t.id then some t else lastSaved saved id := by
  unfold lastSaved
  rw [List.reverse_append, List.reverse_singleton, List.singleton_append, List.find?_cons]
  by_cases here : id = t.id
  · simp [here]
  · simp [here, Ne.symm here]

def Request.saved? : Request → Option Transcript
  | .save t => some t
  | .load _ | .list | .loadMany _ => none

def savesOf (requests : List Request) : List Transcript := requests.filterMap Request.saved?

theorem savesOf_cons (r : Request) (rest : List Request) :
    savesOf (r :: rest) = r.saved?.toList ++ savesOf rest := by
  cases r <;> rfl

/-- The answer to a request after these transcripts were saved. -/
inductive Told (saved : List Transcript) : Request → Answer → Prop
  | save (t : Transcript) : Told saved (.save t) (.ok .saved)
  | known {id : Uuid} {t : Transcript} (last : lastSaved saved id = some t) :
      Told saved (.load id) (.ok (.one t))
  | unknown {id : Uuid} (never : lastSaved saved id = none) :
      Told saved (.load id) (.error (.unknown id))
  | listed {ids : List Uuid} (ascending : ids.Pairwise fun a b => compare a b = .lt)
      (exact : ∀ id, id ∈ ids ↔ ∃ t ∈ saved, t.id = id) : Told saved .list (.ok (.listed ids))
  | many {ids : List Uuid} {ts : List Transcript}
      (each : ids.map (lastSaved saved) = ts.map some) : Told saved (.loadMany ids) (.ok (.many ts))
  | missing {before rest : List Uuid} {id : Uuid}
      (known : ∀ i ∈ before, (lastSaved saved i).isSome) (never : lastSaved saved id = none) :
      Told saved (.loadMany (before ++ id :: rest)) (.error (.unknown id))

theorem savesOf_append (before after : List Request) :
    savesOf (before ++ after) = savesOf before ++ savesOf after :=
  List.filterMap_append ..

theorem savesOf_saves (ts : List Transcript) : savesOf (ts.map .save) = ts := by
  rw [savesOf, List.filterMap_map]
  exact List.filterMap_some

def stateAfter {σ : Type} (handle : σ → Request → σ × Answer) (s : σ) (requests : List Request) :
    σ :=
  requests.foldl (fun s r => (handle s r).1) s

theorem answers_append {σ : Type} (handle : σ → Request → σ × Answer) (s : σ)
    (before after : List Request) : answers handle s (before ++ after) =
      answers handle s before ++ answers handle (stateAfter handle s before) after := by
  induction before generalizing s with
  | nil => rfl
  | cons r before ih =>
    rw [List.cons_append, answers, ih, answers, List.cons_append]
    rfl

theorem length_answers {σ : Type} (handle : σ → Request → σ × Answer) (s : σ)
    (requests : List Request) : (answers handle s requests).length = requests.length := by
  induction requests generalizing s with
  | nil => rfl
  | cons r requests ih => rw [answers, List.length_cons, ih, List.length_cons]

def Remembers (m : MemoryArchive) (saved : List Transcript) : Prop :=
  ∀ id, m.get? id = lastSaved saved id

end Archive

namespace MemoryArchive

variable {m : MemoryArchive} {saved : List Transcript}

theorem remembers_empty : Remembers ∅ [] := fun _ => rfl

theorem remembers_save (remembers : Remembers m saved) (t : Transcript) :
    Remembers (m.save t) (saved ++ [t]) := by
  intro id
  simp only [save, SortedMap.get?_insert, Std.LawfulEqCmp.compare_eq_iff_eq, lastSaved_append,
    remembers id]

theorem remembers_stateAfter (remembers : Remembers m saved) (requests : List Request) :
    Remembers (stateAfter handle m requests) (saved ++ savesOf requests) := by
  induction requests generalizing m saved with
  | nil => simpa [savesOf, stateAfter] using remembers
  | cons r requests ih =>
    have next : Remembers (m.handle r).1 (saved ++ r.saved?.toList) := by
      cases r with
      | save t => exact remembers_save remembers t
      | load | list | loadMany => simpa [Request.saved?, handle] using remembers
    rw [savesOf_cons, ← List.append_assoc]
    exact ih next

theorem told_load (remembers : Remembers m saved) (id : Uuid) :
    Told saved (.load id) ((m.load id).map .one) := by
  rw [load, remembers id]
  cases last : lastSaved saved id with
  | none => exact .unknown last
  | some t => exact .known last

theorem told_list (remembers : Remembers m saved) : Told saved .list (.ok (.listed m.list)) := by
  refine .listed m.keys_ascending fun id => ?_
  rw [list, SortedMap.mem_keys_iff, remembers id, lastSaved, List.find?_isSome]
  simp

theorem told_loadMany (remembers : Remembers m saved) (ids : List Uuid) :
    Told saved (.loadMany ids) ((m.loadMany ids).map .many) := by
  unfold loadMany
  induction ids with
  | nil => exact .many rfl
  | cons id ids ih =>
    rw [List.mapM_cons, load, remembers id]
    cases last : lastSaved saved id with
    | none =>
      have first : ∀ i ∈ ([] : List Uuid), (lastSaved saved i).isSome := by simp
      exact .missing first last
    | some t =>
      cases others : ids.mapM m.load with
      | ok ts =>
        rw [others] at ih
        cases ih with
        | many each =>
          have both : (id :: ids).map (lastSaved saved) = (t :: ts).map some := by
            rw [List.map_cons, List.map_cons, last, each]
          exact .many both
      | error e =>
        rw [others] at ih
        cases ih with
        | missing known never =>
          refine .missing (List.forall_mem_cons.2 ⟨?_, known⟩) never
          rw [last, Option.isSome_some]

theorem told_handle (remembers : Remembers m saved) (r : Request) :
    Told saved r (m.handle r).2 := by
  cases r with
  | save t => exact .save t
  | load id => exact told_load remembers id
  | list => exact told_list remembers
  | loadMany ids => exact told_loadMany remembers ids

theorem save_comm {t u : Transcript} (apart : t.id ≠ u.id) (m : MemoryArchive) :
    (m.save t).save u = (m.save u).save t := by
  apply SortedMap.ext_get?
  intro id
  simp only [save, SortedMap.get?_insert, Std.LawfulEqCmp.compare_eq_iff_eq]
  by_cases first : id = t.id
  · have second : id ≠ u.id := first ▸ apart
    simp [first, apart]
  · simp [first]

theorem stateAfter_saves (m : MemoryArchive) (ts : List Transcript) :
    stateAfter handle m (ts.map .save) = ts.foldl save m := by
  rw [stateAfter, List.foldl_map]
  rfl

theorem saves_perm {ts us : List Transcript} (distinct : (ts.map (·.id)).Nodup) (perm : ts.Perm us)
    (m : MemoryArchive) : ts.foldl save m = us.foldl save m := by
  apply perm.foldl_eq'
  intro t ht u hu m
  by_cases same : t.id = u.id
  · rw [List.inj_on_of_nodup_map distinct ht hu same]
  · exact save_comm same m

theorem answers_saves (m : MemoryArchive) (ts : List Transcript) :
    answers handle m (ts.map .save) = List.replicate ts.length (.ok .saved) := by
  induction ts generalizing m with
  | nil => rfl
  | cons t ts ih =>
    rw [List.map_cons, answers, ih, List.length_cons, List.replicate_succ]
    rfl

theorem answers_perm {ts us : List Transcript} (distinct : (ts.map (·.id)).Nodup)
    (perm : ts.Perm us) (m : MemoryArchive) (before after : List Request) :
    answers handle m (before ++ (us.map .save ++ after)) =
      answers handle m (before ++ (ts.map .save ++ after)) := by
  rw [answers_append, answers_append, answers_append, answers_append, answers_saves, answers_saves,
    stateAfter_saves, stateAfter_saves, saves_perm distinct perm, perm.length_eq]

end MemoryArchive

namespace Folder

/-- The folder holds the texts of what the memory keeps, each under its own name, and nothing under
another spelling. -/
structure Mirrors (f : Folder) (m : MemoryArchive) : Prop where
  holds : ∀ id, f.get? (fileName id) = (m.get? id).map fun t => .text t.write
  canonical : f.IsCanonical
  decodes : ∀ id t, m.get? id = some t → decode t.write = .ok t

namespace Mirrors

variable {f : Folder} {m : MemoryArchive}

theorem empty : Mirrors ∅ ∅ where
  holds _ := rfl
  canonical name stored := by cases stored
  decodes id t here := by cases here

theorem save {t : Transcript} (mirrors : f.Mirrors m) (back : decode t.write = .ok t) :
    ∃ g, f.save t = .ok g ∧ g.Mirrors (m.save t) := by
  have free : f.get? (fileName t.id) ≠ some .folder := by
    rw [mirrors.holds]
    cases m.get? t.id <;> simp
  have saved : f.save t = .ok (f.insert (fileName t.id) (.text t.write)) := by
    simp only [Folder.save]
  refine ⟨_, saved, ?_, mirrors.canonical.save saved, ?_⟩
  · intro id
    by_cases here : id = t.id
    · simp [MemoryArchive.save, here]
    · have other : fileName id ≠ fileName t.id := fun same => here (fileName_injective same)
      simp [MemoryArchive.save, here, other, mirrors.holds id]
  · intro id u kept
    by_cases here : id = t.id
    · obtain rfl : t = u := by simpa [MemoryArchive.save, here] using kept
      exact back
    · exact mirrors.decodes id u (by simpa [MemoryArchive.save, here] using kept)

theorem load (mirrors : f.Mirrors m) (id : Uuid) : f.load id = m.load id := by
  simp only [Folder.load, MemoryArchive.load, mirrors.holds id]
  cases kept : m.get? id with
  | none => rfl
  | some t => exact mirrors.decodes id t kept

theorem list (mirrors : f.Mirrors m) : f.list = m.list := by
  have members : ∀ id, id ∈ f.list ↔ id ∈ m.list := by
    intro id
    have known : fileName id ∈ f.keys ↔ id ∈ m.list := by
      rw [MemoryArchive.list, SortedMap.mem_keys_iff, SortedMap.mem_keys_iff, mirrors.holds id,
        Option.isSome_map]
    rw [← known]
    exact ⟨mirrors.canonical.stored, fun stored => mem_list.2 ⟨_, stored, idOfFile?_fileName id⟩⟩
  have perm : f.list.Perm m.list :=
    (List.perm_ext_iff_of_nodup mirrors.canonical.nodup m.keys_nodup).2 members
  refine perm.eq_of_pairwise ?_ (idsOf_ascending _) (m.keys_ascending.imp fun before => ?_)
  · intro a b _ _ ab ba
    exact Std.LawfulEqCmp.eq_of_compare (Std.OrientedCmp.isLE_antisymm ab ba)
  · rw [before]
    rfl

theorem loadMany (mirrors : f.Mirrors m) (ids : List Uuid) : f.loadMany ids = m.loadMany ids := by
  have same : f.load = m.load := funext mirrors.load
  rw [Folder.loadMany, MemoryArchive.loadMany, same]

theorem handle (mirrors : f.Mirrors m) {r : Request}
    (decodes : ∀ t ∈ r.saved?, decode t.write = .ok t) :
    (f.handle r).2 = (m.handle r).2 ∧ (f.handle r).1.Mirrors (m.handle r).1 := by
  cases r with
  | save t =>
    obtain ⟨g, saved, next⟩ := mirrors.save (decodes t rfl)
    simp only [Folder.handle, saved]
    exact ⟨rfl, next⟩
  | load id =>
    refine ⟨?_, mirrors⟩
    rw [Folder.handle, MemoryArchive.handle, mirrors.load id]
  | list =>
    refine ⟨?_, mirrors⟩
    rw [Folder.handle, MemoryArchive.handle, mirrors.list]
  | loadMany ids =>
    refine ⟨?_, mirrors⟩
    rw [Folder.handle, MemoryArchive.handle, mirrors.loadMany ids]

theorem answers (mirrors : f.Mirrors m) {requests : List Request}
    (decodes : ∀ t ∈ savesOf requests, decode t.write = .ok t) :
    answers Folder.handle f requests = answers MemoryArchive.handle m requests := by
  induction requests generalizing f m with
  | nil => rfl
  | cons r requests ih =>
    rw [savesOf_cons] at decodes
    obtain ⟨same, next⟩ := mirrors.handle fun t first =>
      decodes t (List.mem_append_left _ (Option.mem_toList.2 first))
    rw [Archive.answers, Archive.answers, same,
      ih next fun t later => decodes t (List.mem_append_right _ later)]

end Mirrors

end Folder

namespace Archive

/-- A folder that was opened empty answers any requests as a memory does that was empty too, as long
as what is written of a transcript reads as that transcript. Each answer tells what was saved before
it, and saves with different identifiers, in a row, can come in any order. -/
theorem folder_agrees {path : String} {f : Folder} {requests : List Request}
    (opened : Folder.openAt path (.folder ∅) = .ok f)
    (decodes : ∀ t ∈ savesOf requests, decode t.write = .ok t) :
    answers Folder.handle f requests = answers MemoryArchive.handle ∅ requests ∧
    (∀ before r after, requests = before ++ r :: after →
      ∃ a, (answers MemoryArchive.handle ∅ requests)[before.length]? = some a ∧
        Told (savesOf before) r a) ∧
    (∀ (before after : List Request) (ts us : List Transcript),
      requests = before ++ (ts.map .save ++ after) → (ts.map (·.id)).Nodup → ts.Perm us →
      answers Folder.handle f (before ++ (us.map .save ++ after)) =
          answers Folder.handle f requests ∧
        answers MemoryArchive.handle ∅ (before ++ (us.map .save ++ after)) =
          answers MemoryArchive.handle ∅ requests) := by
  obtain rfl : ∅ = f := Except.ok.inj opened
  have agree := Folder.Mirrors.empty.answers decodes
  refine ⟨agree, ?_, ?_⟩
  · rintro before r after rfl
    have remembers := MemoryArchive.remembers_stateAfter MemoryArchive.remembers_empty before
    refine ⟨_, ?_, MemoryArchive.told_handle remembers r⟩
    rw [answers_append, List.getElem?_append_right (Nat.le_of_eq (length_answers ..)),
      length_answers, Nat.sub_self, answers, List.getElem?_cons_zero]
  · rintro before after ts us rfl distinct perm
    have decodes' : ∀ t ∈ savesOf (before ++ (us.map .save ++ after)), decode t.write = .ok t := by
      intro t here
      apply decodes t
      simpa only [savesOf_append, savesOf_saves, List.mem_append, perm.mem_iff] using here
    have agree' := Folder.Mirrors.empty.answers decodes'
    have memory := MemoryArchive.answers_perm distinct perm ∅ before after
    exact ⟨by rw [agree', agree, memory], memory⟩

def keepsakes : List Transcript := [.keepsake, { Transcript.keepsake with id := .ofNumber 3 }]

def inquiry : List Request :=
  [.list, .load (.ofNumber 3), .load (.ofNumber 9), .loadMany [.ofNumber 7, .ofNumber 9]]

theorem decode_keepsakes :
    ∀ t ∈ savesOf (keepsakes.map .save ++ inquiry), decode t.write = .ok t := by
  have saved : savesOf (keepsakes.map .save ++ inquiry) = keepsakes := rfl
  rw [saved]
  intro t here
  rcases List.mem_pair.1 here with rfl | rfl
  · exact Transcript.decode_write Transcript.storable_keepsake Transcript.instant_keepsake
      Transcript.exact_keepsake (by decide)
  · exact Transcript.decode_write { Transcript.storable_keepsake with }
      Transcript.instant_keepsake Transcript.exact_keepsake (by decide)

theorem keepsakes_agree :
    answers Folder.handle ∅ (keepsakes.map .save ++ inquiry) =
        answers MemoryArchive.handle ∅ (keepsakes.map .save ++ inquiry) ∧
      answers Folder.handle ∅ (keepsakes.reverse.map .save ++ inquiry) =
        answers Folder.handle ∅ (keepsakes.map .save ++ inquiry) := by
  have opened : Folder.openAt "results" (.folder ∅) = .ok ∅ := rfl
  obtain ⟨agree, -, reordered⟩ := folder_agrees opened decode_keepsakes
  have distinct : (keepsakes.map (·.id)).Nodup := by decide +kernel
  have perm := (List.reverse_perm keepsakes).symm
  exact ⟨agree, (reordered [] inquiry keepsakes _ rfl distinct perm).1⟩

end Archive

end Storyline
