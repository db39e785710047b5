/-!
Finite maps whose entries stand in ascending key order, so that maps with equal entries are equal.
-/
namespace Storyline

/-- Entries in ascending key order, each key once. -/
structure SortedMap (κ ν : Type) [Ord κ] where
  entries : List (κ × ν)
  ascending : entries.Pairwise fun a b => compare a.1 b.1 = .lt

namespace SortedMap

variable {κ ν μ : Type} [Ord κ]

@[ext] theorem ext {m n : SortedMap κ ν} (h : m.entries = n.entries) : m = n := by
  cases m; cases n; cases h; rfl

def empty : SortedMap κ ν := ⟨[], .nil⟩

instance : EmptyCollection (SortedMap κ ν) := ⟨empty⟩

instance : Inhabited (SortedMap κ ν) := ⟨empty⟩

def isEmpty (m : SortedMap κ ν) : Bool := m.entries.isEmpty

def keys (m : SortedMap κ ν) : List κ := m.entries.map (·.1)

def find? (k : κ) : List (κ × ν) → Option ν
  | [] => none
  | e :: rest => if compare k e.1 = .eq then some e.2 else find? k rest

def get? (m : SortedMap κ ν) (k : κ) : Option ν := find? k m.entries

def getD (m : SortedMap κ ν) (k : κ) (default : ν) : ν := (m.get? k).getD default

def contains (m : SortedMap κ ν) (k : κ) : Bool := (m.get? k).isSome

def place (k : κ) (v : ν) : List (κ × ν) → List (κ × ν)
  | [] => [(k, v)]
  | e :: rest =>
    match compare k e.1 with
    | .lt => (k, v) :: e :: rest
    | .eq => (k, v) :: rest
    | .gt => e :: place k v rest

theorem mem_place {k : κ} {v : ν} {e : κ × ν} {l : List (κ × ν)} (h : e ∈ place k v l) :
    e = (k, v) ∨ e ∈ l := by
  induction l with
  | nil => simpa [place] using h
  | cons a rest ih =>
    rw [place] at h
    split at h
    · simpa using h
    · rcases List.mem_cons.1 h with h | h
      · exact .inl h
      · exact .inr (List.mem_cons_of_mem _ h)
    · rcases List.mem_cons.1 h with h | h
      · exact .inr (h ▸ List.mem_cons_self)
      · exact (ih h).imp id (List.mem_cons_of_mem _)

theorem ascending_place [Std.TransOrd κ] [Std.LawfulEqOrd κ] {k : κ} {v : ν} {l : List (κ × ν)}
    (h : l.Pairwise fun a b => compare a.1 b.1 = .lt) :
    (place k v l).Pairwise fun a b => compare a.1 b.1 = .lt := by
  induction l with
  | nil => simp [place]
  | cons a rest ih =>
    obtain ⟨first, others⟩ := List.pairwise_cons.1 h
    rw [place]
    split
    next lt =>
      refine List.pairwise_cons.2 ⟨fun b hb => ?_, h⟩
      rcases List.mem_cons.1 hb with rfl | hb
      · exact lt
      · exact Std.TransCmp.lt_trans lt (first b hb)
    next eq =>
      have same : k = a.1 := Std.LawfulEqCmp.eq_of_compare eq
      exact List.pairwise_cons.2 ⟨fun b hb => by simpa [same] using first b hb, others⟩
    next gt =>
      refine List.pairwise_cons.2 ⟨fun b hb => ?_, ih others⟩
      rcases mem_place hb with rfl | hb
      · exact Std.OrientedCmp.lt_of_gt gt
      · exact first b hb

def insert [Std.TransOrd κ] [Std.LawfulEqOrd κ] (m : SortedMap κ ν) (k : κ) (v : ν) :
    SortedMap κ ν :=
  ⟨place k v m.entries, ascending_place m.ascending⟩

def filter (m : SortedMap κ ν) (test : κ → ν → Bool) : SortedMap κ ν :=
  ⟨m.entries.filter fun e => test e.1 e.2, m.ascending.filter _⟩

def ofList [Std.TransOrd κ] [Std.LawfulEqOrd κ] (l : List (κ × ν)) : SortedMap κ ν :=
  l.foldl (fun m e => m.insert e.1 e.2) empty

theorem find?_place [Std.TransOrd κ] [Std.LawfulEqOrd κ] (k j : κ) (v : ν) (l : List (κ × ν)) :
    find? j (place k v l) = if compare j k = .eq then some v else find? j l := by
  induction l with
  | nil => simp [place, find?]
  | cons a rest ih =>
    rw [place]
    split
    next => simp [find?]
    next eq =>
      have same : k = a.1 := Std.LawfulEqCmp.eq_of_compare eq
      by_cases h : compare j k = .eq <;> simp_all [find?]
    next gt =>
      rw [find?, ih, find?]
      by_cases h : compare j a.1 = .eq
      · have same : j = a.1 := Std.LawfulEqCmp.eq_of_compare h
        subst same
        have : compare a.1 k ≠ .eq := by
          intro h'
          have : a.1 = k := Std.LawfulEqCmp.eq_of_compare h'
          subst this
          rw [h] at gt; cases gt
        simp [this]
      · simp [h]

@[simp] theorem get?_insert [Std.TransOrd κ] [Std.LawfulEqOrd κ] (m : SortedMap κ ν) (k j : κ)
    (v : ν) : (m.insert k v).get? j = if compare j k = .eq then some v else m.get? j :=
  find?_place k j v m.entries

theorem find?_eq_none_of_lt {k : κ} {l : List (κ × ν)} (below : ∀ e ∈ l, compare k e.1 = .lt) :
    find? k l = none := by
  induction l with
  | nil => rfl
  | cons e rest ih =>
    have first : compare k e.1 ≠ .eq := by simp [below e List.mem_cons_self]
    rw [find?, if_neg first]
    exact ih fun f hf => below f (List.mem_cons_of_mem _ hf)

theorem eq_of_find?_eq [Std.TransOrd κ] [Std.LawfulEqOrd κ] {l l' : List (κ × ν)}
    (asc : l.Pairwise fun a b => compare a.1 b.1 = .lt)
    (asc' : l'.Pairwise fun a b => compare a.1 b.1 = .lt) (same : ∀ k, find? k l = find? k l') :
    l = l' := by
  induction l generalizing l' with
  | nil =>
    cases l' with
    | nil => rfl
    | cons b rest' => simpa [find?] using same b.1
  | cons a rest ih =>
    cases l' with
    | nil => simpa [find?] using same a.1
    | cons b rest' =>
      obtain ⟨first, others⟩ := List.pairwise_cons.1 asc
      obtain ⟨first', others'⟩ := List.pairwise_cons.1 asc'
      -- the lesser of the two first keys would be known to one list alone
      cases order : compare a.1 b.1 with
      | lt =>
        have unknown : find? a.1 (b :: rest') = none := by
          refine find?_eq_none_of_lt fun e he => ?_
          rcases List.mem_cons.1 he with rfl | he
          · exact order
          · exact Std.TransCmp.lt_trans order (first' e he)
        rw [← same] at unknown
        simp [find?] at unknown
      | gt =>
        have before : compare b.1 a.1 = .lt := Std.OrientedCmp.lt_of_gt order
        have unknown : find? b.1 (a :: rest) = none := by
          refine find?_eq_none_of_lt fun e he => ?_
          rcases List.mem_cons.1 he with rfl | he
          · exact before
          · exact Std.TransCmp.lt_trans before (first e he)
        rw [same] at unknown
        simp [find?] at unknown
      | eq =>
        have key : a.1 = b.1 := Std.LawfulEqCmp.eq_of_compare order
        have value : a.2 = b.2 := by simpa [find?, order] using same a.1
        have rests : rest = rest' := by
          refine ih others others' fun k => ?_
          by_cases here : compare k a.1 = .eq
          · have same_key : k = a.1 := Std.LawfulEqCmp.eq_of_compare here
            subst same_key
            rw [find?_eq_none_of_lt first, find?_eq_none_of_lt (key ▸ first')]
          · simpa [find?, here, ← key] using same k
        rw [rests, Prod.ext key value]

theorem find?_filter [Std.LawfulEqOrd κ] (test : κ → ν → Bool) (k : κ) {l : List (κ × ν)}
    (asc : l.Pairwise fun a b => compare a.1 b.1 = .lt) :
    find? k (l.filter fun e => test e.1 e.2) = (find? k l).filter (test k) := by
  induction l with
  | nil => rfl
  | cons e rest ih =>
    obtain ⟨first, others⟩ := List.pairwise_cons.1 asc
    have ih := ih others
    rw [List.filter_cons]
    by_cases here : compare k e.1 = .eq
    · have same : k = e.1 := Std.LawfulEqCmp.eq_of_compare here
      subst same
      rw [find?_eq_none_of_lt first, Option.filter_none] at ih
      cases passes : test e.1 e.2 <;> simp [find?, passes, ih, Option.filter_some]
    · split <;> simp [find?, here, ih]

theorem get?_filter [Std.LawfulEqOrd κ] (m : SortedMap κ ν) (test : κ → ν → Bool) (k : κ) :
    (m.filter test).get? k = (m.get? k).filter (test k) :=
  find?_filter test k m.ascending

theorem mem_keys_iff [Std.LawfulEqOrd κ] {m : SortedMap κ ν} {k : κ} :
    k ∈ m.keys ↔ (m.get? k).isSome = true := by
  unfold keys get?
  induction m.entries with
  | nil => simp [find?]
  | cons e rest ih =>
    rw [List.map_cons, List.mem_cons, find?]
    by_cases here : k = e.1
    · simp [here]
    · have other : compare k e.1 ≠ .eq := fun eq => here (Std.LawfulEqCmp.eq_of_compare eq)
      simpa [here, other] using ih

theorem mem_entries_iff [Std.LawfulEqOrd κ] {m : SortedMap κ ν} {k : κ} {v : ν} :
    (k, v) ∈ m.entries ↔ m.get? k = some v := by
  have ascending := m.ascending
  unfold get?
  generalize m.entries = entries at ascending ⊢
  induction entries with
  | nil => simp [find?]
  | cons e rest ih =>
    obtain ⟨first, others⟩ := List.pairwise_cons.1 ascending
    rw [List.mem_cons, find?]
    by_cases here : k = e.1
    · subst here
      have once : (e.1, v) ∉ rest := fun later => by simpa using first _ later
      simp [once, Prod.ext_iff, eq_comm]
    · have other : compare k e.1 ≠ .eq := fun eq => here (Std.LawfulEqCmp.eq_of_compare eq)
      simp [here, other, ih others, Prod.ext_iff]

theorem mem_keys_insert [Std.TransOrd κ] [Std.LawfulEqOrd κ] {m : SortedMap κ ν} {k j : κ} {v : ν} :
    k ∈ (m.insert j v).keys ↔ k = j ∨ k ∈ m.keys := by
  rw [mem_keys_iff, mem_keys_iff, get?_insert]
  by_cases here : k = j <;> simp [here]

theorem keys_ascending (m : SortedMap κ ν) : m.keys.Pairwise fun a b => compare a b = .lt :=
  List.pairwise_map.2 m.ascending

theorem keys_nodup [Std.LawfulEqOrd κ] (m : SortedMap κ ν) : m.keys.Nodup := by
  apply m.keys_ascending.imp
  intro a b before same
  simp [same] at before

theorem get?_foldl_insert [Std.TransOrd κ] [Std.LawfulEqOrd κ] (l : List (κ × ν))
    (m : SortedMap κ ν) (k : κ) : (l.foldl (fun m e => m.insert e.1 e.2) m).get? k =
      ((l.reverse.find? fun e => compare k e.1 = .eq).map (·.2)).or (m.get? k) := by
  induction l generalizing m with
  | nil => rfl
  | cons e l ih =>
    rw [List.foldl_cons, ih, get?_insert, List.reverse_cons, List.find?_append]
    cases l.reverse.find? fun e => compare k e.1 = .eq with
    | some last => rfl
    | none => by_cases here : compare k e.1 = .eq <;> simp [here]

theorem get?_ofList [Std.TransOrd κ] [Std.LawfulEqOrd κ] (l : List (κ × ν)) (k : κ) :
    (ofList l).get? k = (l.reverse.find? fun e => compare k e.1 = .eq).map (·.2) := by
  rw [ofList, get?_foldl_insert]
  exact Option.or_none

theorem exists_mem_of_get?_ofList [Std.TransOrd κ] [Std.LawfulEqOrd κ] {l : List (κ × ν)} {k : κ}
    {v : ν} (here : (ofList l).get? k = some v) : ∃ e ∈ l, e.2 = v := by
  rw [get?_ofList] at here
  obtain ⟨e, found, rfl⟩ := Option.map_eq_some_iff.1 here
  exact ⟨e, List.mem_reverse.1 (List.mem_of_find?_eq_some found), rfl⟩

theorem get?_ofList_map [Std.TransOrd κ] [Std.LawfulEqOrd κ] [DecidableEq κ] (value : κ → ν)
    (l : List κ) (k : κ) :
    (ofList (l.map fun j => (j, value j))).get? k = if k ∈ l then some (value k) else none := by
  rw [get?_ofList, ← List.map_reverse, List.find?_map]
  have last : ((fun e : κ × ν => decide (compare k e.1 = .eq)) ∘ fun j => (j, value j)) =
      fun j => decide (k = j) := by
    funext j
    simp
  rw [last]
  cases found : l.reverse.find? fun j => decide (k = j) with
  | none =>
    have other : k ∉ l := fun hk => by
      simpa using List.find?_eq_none.1 found k (List.mem_reverse.2 hk)
    simp [other]
  | some j =>
    obtain rfl : k = j := by simpa using List.find?_some found
    simp [List.mem_reverse.1 (List.mem_of_find?_eq_some found)]

theorem ext_get? [Std.TransOrd κ] [Std.LawfulEqOrd κ] {m n : SortedMap κ ν}
    (same : ∀ k, m.get? k = n.get? k) : m = n :=
  ext (eq_of_find?_eq m.ascending n.ascending same)

theorem find?_last [Std.LawfulEqOrd κ] {l : List (κ × ν)}
    (asc : l.Pairwise fun a b => compare a.1 b.1 = .lt) (k : κ) :
    (l.reverse.find? fun e => compare k e.1 = .eq).map (·.2) = find? k l := by
  induction l with
  | nil => rfl
  | cons e rest ih =>
    obtain ⟨first, others⟩ := List.pairwise_cons.1 asc
    rw [List.reverse_cons, List.find?_append, Option.map_or, ih others, find?]
    by_cases here : compare k e.1 = .eq
    · have same : k = e.1 := Std.LawfulEqCmp.eq_of_compare here
      rw [same, find?_eq_none_of_lt first]
      simp
    · simp [here]

theorem ofList_entries [Std.TransOrd κ] [Std.LawfulEqOrd κ] (m : SortedMap κ ν) :
    ofList m.entries = m := by
  apply ext_get?
  intro k
  rw [get?_ofList]
  exact find?_last m.ascending k

end SortedMap

end Storyline
