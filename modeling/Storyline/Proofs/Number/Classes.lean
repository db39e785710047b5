import Mathlib.Algebra.BigOperators.Group.List.Basic
import Mathlib.Algebra.GroupWithZero.Nat
import Mathlib.Data.List.Nodup

/-!
Counts by class: of the members of a list, and in tables that show a figure for each class that
occurs.
-/
namespace Storyline.Classes

variable {α κ ν : Type} {classes : List κ}

section Members

variable [DecidableEq κ]

theorem sum_map_single (distinct : classes.Nodup) (c : κ) :
    (classes.map fun k => if c = k then 1 else 0).sum = if c ∈ classes then 1 else 0 := by
  induction classes with
  | nil => rfl
  | cons k classes ih =>
    obtain ⟨new, distinct⟩ := List.nodup_cons.1 distinct
    rw [List.map_cons, List.sum_cons, ih distinct]
    by_cases here : c = k
    · subst here
      simp [new]
    · simp [here]

theorem sum_countP (distinct : classes.Nodup) (f : α → κ) {l : List α}
    (known : ∀ a ∈ l, f a ∈ classes) :
    (classes.map fun k => l.countP (f · = k)).sum = l.length := by
  induction l with
  | nil => simp
  | cons a l ih =>
    obtain ⟨first, rest⟩ := List.forall_mem_cons.1 known
    simp only [List.countP_cons, decide_eq_true_eq, List.sum_map_add, ih rest,
      sum_map_single distinct, if_pos first, List.length_cons]

end Members

section Table

variable (figure : κ → ν) (size : ν → Nat)

theorem mem_table_iff {k : κ} {v : ν} :
    (k, v) ∈ (classes.map fun k => (k, figure k)).filter (fun e => size e.2 ≠ 0) ↔
      k ∈ classes ∧ v = figure k ∧ size (figure k) ≠ 0 := by
  rw [List.mem_filter, List.mem_map, decide_eq_true_eq]
  constructor
  · rintro ⟨⟨k, hk, same⟩, occurs⟩
    cases same
    exact ⟨hk, rfl, occurs⟩
  · rintro ⟨hk, rfl, occurs⟩
    exact ⟨⟨k, hk, rfl⟩, occurs⟩

theorem lookup_table [BEq κ] [LawfulBEq κ] (k : κ) :
    ((classes.map fun k => (k, figure k)).filter fun e => size e.2 ≠ 0).lookup k =
      if k ∈ classes ∧ size (figure k) ≠ 0 then some (figure k) else none := by
  induction classes with
  | nil => simp
  | cons c classes ih =>
    rw [List.map_cons, List.filter_cons]
    by_cases here : k = c
    · subst here
      by_cases occurs : size (figure k) = 0
      · simpa [occurs] using ih
      · simp [occurs]
    · have other : (k == c) = false := by simpa using here
      by_cases occurs : size (figure c) = 0
      · simpa [occurs, here] using ih
      · simpa [occurs, here, List.lookup_cons, other] using ih

theorem nodup_keys_table (distinct : classes.Nodup) :
    (((classes.map fun k => (k, figure k)).filter fun e => size e.2 ≠ 0).map (·.1)).Nodup := by
  have keys : (classes.map fun k => (k, figure k)).map (·.1) = classes := by simp [Function.comp_def]
  exact (keys.symm ▸ distinct).sublist (List.filter_sublist.map _)

theorem sum_table :
    ((((classes.map fun k => (k, figure k)).filter fun e => size e.2 ≠ 0).map fun e => size e.2)).sum =
      (classes.map fun k => size (figure k)).sum := by
  induction classes with
  | nil => rfl
  | cons k classes ih =>
    rw [List.map_cons, List.filter_cons, List.map_cons, List.sum_cons, ← ih]
    split
    · rw [List.map_cons, List.sum_cons]
    · rename_i absent
      have nothing : size (figure k) = 0 := by simpa using absent
      rw [nothing, Nat.zero_add]

end Table

end Storyline.Classes
