import Storyline.Graph.Basic
import Storyline.Graph.Marks

/-! The nodes that the entry points of the story lead to, found breadth first. -/
namespace Storyline.Graph

/-- Marks the nodes of a list that bear no mark yet; returns the marks and those nodes. -/
def reach (marks : Array Bool) : List Nat → Array Bool × List Nat
  | [] => (marks, [])
  | i :: rest =>
    if h : i < marks.size then
      if marks[i] then reach marks rest
      else
        let (marks, fresh) := reach (marks.set i true h) rest
        (marks, i :: fresh)
    else reach marks rest

theorem count_reach (marks : Array Bool) (l : List Nat) :
    (reach marks l).1.count false + (reach marks l).2.length = marks.count false := by
  induction l generalizing marks with
  | nil => simp [reach]
  | cons i rest ih =>
    rw [reach]
    split
    next h =>
      split
      · exact ih marks
      next unmarked =>
        have := ih (marks.set i true h)
        have := count_set_add_one h (by simpa using unmarked) (by decide : true ≠ false)
        simp only [List.length_cons]
        omega
    next => exact ih marks

def spread (g : Graph) (marks : Array Bool) : List Nat → Array Bool
  | [] => marks
  | i :: queue =>
    spread g (reach marks (g.children i)).1 (queue ++ (reach marks (g.children i)).2)
termination_by queue => marks.count false + queue.length
decreasing_by
  have := count_reach marks (g.children i)
  simp only [List.length_append, List.length_cons]
  omega

def reachable (g : Graph) : Array Bool :=
  let (marks, roots) := reach (Array.replicate g.nodes.size false) g.roots
  spread g marks roots

end Storyline.Graph
