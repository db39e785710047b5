/-! Finite sets whose elements stand in ascending order. -/
namespace Storyline

structure SortedSet (α : Type) [Ord α] where
  elements : List α
  ascending : elements.Pairwise fun a b => compare a b = .lt

namespace SortedSet

variable {α : Type} [Ord α]

@[ext] theorem ext {s t : SortedSet α} (h : s.elements = t.elements) : s = t := by
  cases s; cases t; cases h; rfl

def empty : SortedSet α := ⟨[], .nil⟩

instance : EmptyCollection (SortedSet α) := ⟨empty⟩

instance : Inhabited (SortedSet α) := ⟨empty⟩

def isEmpty (s : SortedSet α) : Bool := s.elements.isEmpty

def contains (s : SortedSet α) (a : α) : Bool := s.elements.any fun b => compare a b = .eq

def place (a : α) : List α → List α
  | [] => [a]
  | b :: rest =>
    match compare a b with
    | .lt => a :: b :: rest
    | .eq => b :: rest
    | .gt => b :: place a rest

theorem mem_place {a b : α} {l : List α} (h : b ∈ place a l) : b = a ∨ b ∈ l := by
  induction l with
  | nil => simpa [place] using h
  | cons c rest ih =>
    rw [place] at h
    split at h
    · simpa using h
    · exact .inr h
    · rcases List.mem_cons.1 h with h | h
      · exact .inr (h ▸ List.mem_cons_self)
      · exact (ih h).imp id (List.mem_cons_of_mem _)

theorem mem_place_iff [Std.LawfulEqOrd α] {a b : α} {l : List α} :
    b ∈ place a l ↔ b = a ∨ b ∈ l := by
  refine ⟨mem_place, ?_⟩
  induction l with
  | nil => simp [place]
  | cons c rest ih =>
    intro h
    rw [place]
    split
    next => simpa using h
    next eq =>
      have same : a = c := Std.LawfulEqCmp.eq_of_compare eq
      simpa [same] using h
    next =>
      rcases h with h | h
      · exact List.mem_cons_of_mem _ (ih (.inl h))
      · rcases List.mem_cons.1 h with h | h
        · exact h ▸ List.mem_cons_self
        · exact List.mem_cons_of_mem _ (ih (.inr h))

theorem ascending_place [Std.TransOrd α] {a : α} {l : List α}
    (h : l.Pairwise fun a b => compare a b = .lt) :
    (place a l).Pairwise fun a b => compare a b = .lt := by
  induction l with
  | nil => simp [place]
  | cons c rest ih =>
    obtain ⟨first, others⟩ := List.pairwise_cons.1 h
    rw [place]
    split
    next lt =>
      refine List.pairwise_cons.2 ⟨fun b hb => ?_, h⟩
      rcases List.mem_cons.1 hb with rfl | hb
      · exact lt
      · exact Std.TransCmp.lt_trans lt (first b hb)
    next => exact h
    next gt =>
      refine List.pairwise_cons.2 ⟨fun b hb => ?_, ih others⟩
      rcases mem_place hb with rfl | hb
      · exact Std.OrientedCmp.lt_of_gt gt
      · exact first b hb

def insert [Std.TransOrd α] (s : SortedSet α) (a : α) : SortedSet α :=
  ⟨place a s.elements, ascending_place s.ascending⟩

@[simp] theorem mem_elements_insert [Std.TransOrd α] [Std.LawfulEqOrd α] {s : SortedSet α}
    {a b : α} : b ∈ (s.insert a).elements ↔ b = a ∨ b ∈ s.elements := mem_place_iff

def erase (s : SortedSet α) (a : α) : SortedSet α :=
  ⟨s.elements.filter fun b => compare a b != .eq, s.ascending.filter _⟩

theorem contains_iff [Std.LawfulEqOrd α] {s : SortedSet α} {a : α} :
    s.contains a = true ↔ a ∈ s.elements := by
  simp [contains]

theorem contains_insert_iff [Std.TransOrd α] [Std.LawfulEqOrd α] {s : SortedSet α} {a b : α} :
    (s.insert a).contains b = true ↔ b = a ∨ s.contains b = true := by
  rw [contains_iff, mem_elements_insert, contains_iff]

theorem contains_erase_iff [Std.LawfulEqOrd α] {s : SortedSet α} {a b : α} :
    (s.erase a).contains b = true ↔ b ≠ a ∧ s.contains b = true := by
  rw [contains_iff, contains_iff, erase, List.mem_filter, and_comm, bne_iff_ne, Ne,
    Std.LawfulEqCmp.compare_eq_iff_eq, eq_comm]

def ofList [Std.TransOrd α] (l : List α) : SortedSet α := l.foldl insert empty

theorem place_of_forall_gt {a : α} {l : List α} (last : ∀ b ∈ l, compare a b = .gt) :
    place a l = l ++ [a] := by
  induction l with
  | nil => rfl
  | cons b rest ih =>
    rw [place, last b List.mem_cons_self, ih fun c hc => last c (List.mem_cons_of_mem b hc)]
    rfl

theorem ofList_elements [Std.TransOrd α] (s : SortedSet α) : ofList s.elements = s := by
  suffices grown : ∀ (l : List α) (t : SortedSet α),
      (t.elements ++ l).Pairwise (fun a b => compare a b = .lt) →
      (l.foldl insert t).elements = t.elements ++ l by
    apply ext
    exact grown s.elements empty s.ascending
  intro l
  induction l with
  | nil => simp
  | cons a l ih =>
    intro t asc
    have last : (t.insert a).elements = t.elements ++ [a] := by
      apply place_of_forall_gt
      intro b hb
      have before := (List.pairwise_append.1 asc).2.2 b hb a List.mem_cons_self
      exact Std.OrientedCmp.gt_of_lt before
    rw [List.foldl_cons, ih, last, List.append_assoc, List.singleton_append]
    rw [last, List.append_assoc, List.singleton_append]
    exact asc

end SortedSet

end Storyline
