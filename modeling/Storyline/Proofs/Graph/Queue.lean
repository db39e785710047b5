import Mathlib.Data.List.Nodup
import Storyline.Proofs.Graph.Reachability

/-!
The queue of the breadth-first search. A node enters it when it is marked, so no node enters twice,
and at the end the nodes that bear marks are those that have entered. In which order nodes enter
that are equally far from the entry points is not looked at.
-/
namespace Storyline.Graph

section Reach

variable (marks : Array Bool) (l : List Nat)

theorem nodup_fresh_reach : (reach marks l).2.Nodup := by
  induction l generalizing marks with
  | nil => exact .nil
  | cons k rest ih =>
    rw [reach]
    split
    · rename_i inside
      split
      · exact ih marks
      · apply List.nodup_cons.2
        refine ⟨?_, ih _⟩
        intro again
        have unmarked := ((mem_fresh_reach_iff _ _ _).1 again).2
        simp [inside] at unmarked
    · exact ih marks

theorem fresh_reach_eq (nodup : l.Nodup) (unmarked : ∀ i ∈ l, marks[i]? = some false) :
    (reach marks l).2 = l := by
  induction l generalizing marks with
  | nil => rfl
  | cons k rest ih =>
    obtain ⟨new, nodup⟩ := List.nodup_cons.1 nodup
    obtain ⟨inside, first⟩ := Array.getElem?_eq_some_iff.1 (unmarked k List.mem_cons_self)
    have rest_unmarked : ∀ i ∈ rest, (marks.set k true inside)[i]? = some false := by
      intro i hi
      have other : k ≠ i := by
        rintro rfl
        exact new hi
      rw [Array.getElem?_set, if_neg other]
      exact unmarked i (List.mem_cons_of_mem _ hi)
    rw [reach, dif_pos inside, first]
    exact congrArg (k :: ·) (ih _ nodup rest_unmarked)

end Reach

/-- From some marks and a queue the search goes on until the queue is empty: the first node leaves
it, and those of its children that bear no mark get one and enter. Lists what enters, in order, and
gives the marks at the end. -/
inductive Enters (g : Graph) : Array Bool → List Nat → List Nat → Array Bool → Prop where
  | done (marks : Array Bool) : Enters g marks [] [] marks
  | turn {marks last : Array Bool} {i : Nat} {queue later : List Nat} :
      Enters g (reach marks (g.children i)).1 (queue ++ (reach marks (g.children i)).2) later last →
      Enters g marks (i :: queue) ((reach marks (g.children i)).2 ++ later) last

/-- The search comes to an end. -/
theorem exists_enters (g : Graph) (marks : Array Bool) (queue : List Nat) :
    ∃ entered, g.Enters marks queue entered (g.spread marks queue) := by
  fun_induction spread g marks queue with
  | case1 marks => exact ⟨[], .done marks⟩
  | case2 marks i queue ih =>
    obtain ⟨later, enters⟩ := ih
    exact ⟨_, .turn enters⟩

namespace Enters

variable {g : Graph} {marks last : Array Bool} {queue entered : List Nat} {i : Nat}

theorem unmarked (h : g.Enters marks queue entered last) (hi : i ∈ entered) :
    marks[i]? = some false := by
  induction h with
  | done => cases hi
  | @turn marks last k queue later _ ih =>
    rcases List.mem_append.1 hi with hi | hi
    · exact ((mem_fresh_reach_iff ..).1 hi).2
    · -- what is unmarked after a turn was so before
      have after := ih hi
      have inside : i < marks.size := by
        rw [← size_reach marks (g.children k)]
        exact (Array.getElem?_eq_some_iff.1 after).1
      have never : marks[i]? ≠ some true := by
        intro marked
        rw [(marked_reach_iff ..).2 (.inl marked)] at after
        cases after
      rw [Array.getElem?_eq_getElem inside] at never ⊢
      simpa using never

theorem nodup (h : g.Enters marks queue entered last) : entered.Nodup := by
  induction h with
  | done => exact .nil
  | @turn marks last k queue later rest ih =>
    apply List.Nodup.append (nodup_fresh_reach ..) ih
    intro i now again
    have inside : i < marks.size :=
      (Array.getElem?_eq_some_iff.1 ((mem_fresh_reach_iff ..).1 now).2).1
    have marked : (reach marks (g.children k)).1[i]? = some true :=
      (marked_reach_iff ..).2 (.inr ⟨((mem_fresh_reach_iff ..).1 now).1, inside⟩)
    rw [rest.unmarked again] at marked
    cases marked

theorem marked_iff (h : g.Enters marks queue entered last) :
    last[i]? = some true ↔ marks[i]? = some true ∨ i ∈ entered := by
  induction h with
  | done => simp
  | @turn marks last k queue later _ ih =>
    rw [ih, marked_reach_iff, List.mem_append, mem_fresh_reach_iff]
    by_cases inside : i < marks.size
    · rw [Array.getElem?_eq_getElem inside]
      cases marks[i] <;> simp [inside]
    · simp [inside]

end Enters

theorem map_fst_numbered (g : Graph) : g.numbered.map (·.1) = List.range g.nodes.size := by
  simp [numbered, Function.comp_def, ← List.range_eq_range']

theorem ascending_of_numbered (g : Graph) (test : Nat × Node → Bool) :
    ((g.numbered.filter test).map (·.1)).Pairwise (· < ·) := by
  have part := (List.filter_sublist (l := g.numbered) (p := test)).map (·.1)
  rw [map_fst_numbered] at part
  exact List.pairwise_lt_range.sublist part

/-- The entry points are the first in the queue, and no node enters it twice. The nodes that are
marked at the end are those that were in it. -/
theorem exists_entered (g : Graph) : ∃ entered,
    g.Enters (reach (.replicate g.nodes.size false) g.roots).1 g.roots entered g.reachable ∧
    (g.roots ++ entered).Nodup ∧
    ∀ i, g.reachable[i]? = some true ↔ i ∈ g.roots ++ entered := by
  have distinct : g.roots.Nodup := (ascending_of_numbered g _).imp Nat.ne_of_lt
  have unmarked : ∀ i ∈ g.roots, (Array.replicate g.nodes.size false)[i]? = some false :=
    fun i root => by simp [lt_of_mem_roots root]
  have first : (reach (.replicate g.nodes.size false) g.roots).2 = g.roots :=
    fresh_reach_eq _ _ distinct unmarked
  have marked := fun i => marked_reach_start_iff (fun _ => lt_of_mem_roots (g := g)) (i := i)
  obtain ⟨entered, enters⟩ :=
    exists_enters g (reach (.replicate g.nodes.size false) g.roots).1 g.roots
  have ends : g.spread (reach (.replicate g.nodes.size false) g.roots).1 g.roots = g.reachable := by
    rw [reachable]
    exact congrArg (g.spread _) first.symm
  rw [ends] at enters
  refine ⟨entered, enters, List.Nodup.append distinct enters.nodup ?_, ?_⟩
  · intro i root again
    have unmarked := enters.unmarked again
    rw [(marked i).2 root] at unmarked
    cases unmarked
  · intro i
    rw [enters.marked_iff, marked, List.mem_append]

end Storyline.Graph
