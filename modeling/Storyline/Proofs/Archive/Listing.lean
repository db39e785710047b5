import Mathlib.Data.List.Count
import Mathlib.Data.List.Nodup
import Storyline.Proofs.Archive.Naming

/-!
The identifiers that a folder lists against those that it can load. A name is listed however it
spells its identifier, while loading asks for the one name that a save gives; the two agree exactly
in a folder without other spellings.
-/
namespace Storyline

namespace Archive

theorem mem_idsOf {names : List String} {id : Uuid} :
    id ∈ idsOf names ↔ ∃ name ∈ names, idOfFile? name = some id := by
  rw [idsOf, (List.mergeSort_perm _ _).mem_iff, List.mem_filterMap]

theorem count_idsOf (names : List String) (id : Uuid) :
    (idsOf names).count id = names.countP fun name => idOfFile? name = some id := by
  rw [idsOf, (List.mergeSort_perm _ _).count_eq, List.count, List.countP_filterMap]
  apply List.countP_congr
  intro name here
  cases idOfFile? name <;> simp

theorem idsOf_ascending (names : List String) :
    (idsOf names).Pairwise fun a b => (compare a b).isLE = true := by
  apply List.pairwise_mergeSort
  · intro a b c ab bc
    exact Std.TransCmp.isLE_trans ab bc
  · intro a b
    have swapped : compare b a = (compare a b).swap := Std.OrientedOrd.eq_swap
    rw [swapped]
    cases compare a b <;> rfl

end Archive

namespace Folder

open Archive

variable {f : Folder} {id : Uuid}

/-- Every name that spells an identifier is the one that a save gives. -/
def IsCanonical (f : Folder) : Prop :=
  ∀ name ∈ f.keys, ∀ id, idOfFile? name = some id → name = fileName id

theorem mem_list : id ∈ f.list ↔ ∃ name ∈ f.keys, idOfFile? name = some id := mem_idsOf

theorem decode_ne_unknown (text : String) : decode text ≠ .error (.unknown id) := by
  unfold decode
  split <;> simp

theorem load_unknown_iff {asked : Uuid} :
    f.load asked = .error (.unknown id) ↔ asked = id ∧ fileName asked ∉ f.keys := by
  rw [SortedMap.mem_keys_iff, load]
  split
  next text here => simp [here, decode_ne_unknown]
  next here => simp [here]
  next here => simp [here]

theorem loadMany_unknown {ids : List Uuid} (stops : f.loadMany ids = .error (.unknown id)) :
    ∃ i ∈ ids, f.load i = .error (.unknown id) := by
  unfold loadMany at stops
  induction ids with
  | nil => simp [pure, Except.pure] at stops
  | cons i ids ih =>
    cases first : f.load i with
    | error e =>
      obtain rfl : e = .unknown id := by simpa [first, bind, Except.bind] using stops
      exact ⟨i, List.mem_cons_self, first⟩
    | ok t =>
      cases others : ids.mapM f.load with
      | error e =>
        obtain rfl : e = .unknown id := by simpa [first, others, bind, Except.bind] using stops
        obtain ⟨j, here, later⟩ := ih others
        exact ⟨j, List.mem_cons_of_mem i here, later⟩
      | ok ts => simp [first, others, bind, Except.bind, pure, Except.pure] at stops

namespace IsCanonical

theorem nodup (canonical : f.IsCanonical) : f.list.Nodup := by
  rw [list, idsOf, (List.mergeSort_perm _ _).nodup_iff, List.Nodup, List.pairwise_filterMap]
  apply f.keys_nodup.imp_of_mem
  intro a b ha hb apart id spells id' spells' same
  apply apart
  rw [canonical a ha id spells, canonical b hb id' spells', same]

theorem stored (canonical : f.IsCanonical) (listed : id ∈ f.list) : fileName id ∈ f.keys := by
  obtain ⟨name, stored, spells⟩ := mem_list.1 listed
  exact canonical name stored id spells ▸ stored

theorem loads (canonical : f.IsCanonical) (listed : id ∈ f.list) :
    f.load id ≠ .error (.unknown id) :=
  fun unknown => (load_unknown_iff.1 unknown).2 (canonical.stored listed)

theorem save {g : Folder} {t : Transcript} (canonical : f.IsCanonical) (saved : f.save t = .ok g) :
    g.IsCanonical := by
  obtain rfl : f.insert (fileName t.id) (.text t.write) = g := by
    simp only [Folder.save] at saved
    split at saved
    · cases saved
    · exact Except.ok.inj saved
  intro name stored id spells
  rcases SortedMap.mem_keys_insert.1 stored with rfl | stored
  · rw [idOfFile?_fileName] at spells
    rw [Option.some.inj spells]
  · exact canonical name stored id spells

theorem saves {g : Folder} {ts : List Transcript} (canonical : f.IsCanonical)
    (saved : ts.foldlM Folder.save f = .ok g) : g.IsCanonical := by
  induction ts generalizing f with
  | nil =>
    obtain rfl : f = g := Except.ok.inj saved
    exact canonical
  | cons t ts ih =>
    rw [List.foldlM_cons] at saved
    cases first : f.save t with
    | error e => simp [first, bind, Except.bind] at saved
    | ok h =>
      rw [first] at saved
      exact ih (canonical.save first) saved

end IsCanonical

theorem isCanonical_of_listed_once (once : f.list.Nodup)
    (loads : ∀ id ∈ f.list, f.load id ≠ .error (.unknown id)) : f.IsCanonical := by
  intro name stored id spells
  have named : fileName id ∈ f.keys := by
    by_contra absent
    exact loads id (mem_list.2 ⟨name, stored, spells⟩) (load_unknown_iff.2 ⟨rfl, absent⟩)
  -- otherwise two names would spell the identifier, and it would be listed twice
  by_contra other
  have both : [name, fileName id] ⊆ f.keys.filter fun name => idOfFile? name = some id := by
    simp [stored, spells, named, idOfFile?_fileName]
  have twice : 2 ≤ f.list.count id := by
    rw [list, count_idsOf, List.countP_eq_length_filter]
    exact (List.subperm_of_subset (by simp [other]) both).length_le
  have atMost := List.nodup_iff_count_le_one.1 once id
  omega

/-- An identifier is listed once for each name that spells it, in ascending order, and it can be
loaded when the name of its own is there. So each listed identifier stands once and can be loaded
exactly in canonical folders; loading all that is listed misses nothing there, and they stay
canonical as long as only saves write to them. -/
theorem list_exact (f : Folder) :
    (f.list.Pairwise fun a b => (compare a b).isLE = true) ∧
    (∀ id, f.list.count id = f.keys.countP fun name => idOfFile? name = some id) ∧
    (∀ id, f.load id = .error (.unknown id) ↔ fileName id ∉ f.keys) ∧
    ((f.list.Nodup ∧ ∀ id ∈ f.list, f.load id ≠ .error (.unknown id)) ↔ f.IsCanonical) ∧
    (f.IsCanonical → ∀ id, f.loadMany f.list ≠ .error (.unknown id)) ∧
    (f.IsCanonical → ∀ (ts : List Transcript) (g : Folder), ts.foldlM save f = .ok g →
      g.IsCanonical) := by
  refine ⟨idsOf_ascending _, count_idsOf _, fun id => ?_, ⟨?_, ?_⟩, ?_,
    fun canonical ts g => canonical.saves⟩
  · simp [load_unknown_iff]
  · rintro ⟨once, loads⟩
    exact isCanonical_of_listed_once once loads
  · intro canonical
    exact ⟨canonical.nodup, fun id => canonical.loads⟩
  · intro canonical id stops
    obtain ⟨i, listed, unknown⟩ := loadMany_unknown stops
    obtain ⟨rfl, -⟩ := load_unknown_iff.1 unknown
    exact canonical.loads listed unknown

def fourth : Uuid := .ofNumber 0x40008000000000000004

/-- One file whose name spells an identifier without hyphens. -/
def plainlyNamed : Folder :=
  (∅ : Folder).insert "00000000000040008000000000000004.json" (.text "")

def namedTwice : Folder := plainlyNamed.insert (fileName fourth) (.text "")

/-- The first file alone is listed and cannot be loaded; both together are listed as two. -/
theorem plain_name_listed :
    plainlyNamed.list = [fourth] ∧ plainlyNamed.loadMany [fourth] = .error (.unknown fourth) ∧
      namedTwice.list.count fourth = 2 := by
  have unknown : plainlyNamed.load fourth = .error (.unknown fourth) := by
    rw [load_unknown_iff]
    decide +kernel
  refine ⟨by decide +kernel, by simp [loadMany, unknown, bind, Except.bind], ?_⟩
  rw [list, count_idsOf]
  decide +kernel

end Folder

end Storyline
