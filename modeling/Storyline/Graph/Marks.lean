/-! Marks on the nodes of a graph: how many bear a given mark before and after one is changed. -/
namespace Storyline.Graph

variable {α : Type} [BEq α] [LawfulBEq α]

theorem count_set_add_one {marks : Array α} {i : Nat} (h : i < marks.size) {a b : α}
    (old : marks[i] = a) (new : b ≠ a) : (marks.set i b h).count a + 1 = marks.count a := by
  have positive : 0 < marks.count a := Array.count_pos_iff.2 (old ▸ Array.getElem_mem h)
  rw [Array.count_set h, old]
  simp [new]
  omega

theorem count_set_le {marks : Array α} {i : Nat} (h : i < marks.size) {a b : α} (new : b ≠ a) :
    (marks.set i b h).count a ≤ marks.count a := by
  rw [Array.count_set h]
  simp [new]

end Storyline.Graph
