import Storyline.Graph.Basic
import Storyline.Graph.Marks

/-!
The edges that close a loop, found depth first. The path to the current node stands on a stack,
each node with the children that are still to be looked at.
-/
namespace Storyline.Graph

inductive Mark where
  | unvisited
  | onPath
  | finished
  deriving DecidableEq

/-- A node on the path and the children that are still to be looked at. -/
abbrev Frame := Nat × List Nat

def pending : List Frame → Nat
  | [] => 0
  | (_, children) :: path => children.length + 1 + pending path

def finish (marks : Array Mark) (i : Nat) : Array Mark :=
  if h : i < marks.size then marks.set i .finished h else marks

theorem count_finish_le (marks : Array Mark) (i : Nat) :
    (finish marks i).count .unvisited ≤ marks.count .unvisited := by
  unfold finish
  split
  next h => exact count_set_le h (by decide)
  next => exact Nat.le_refl _

/-- Walks until the path is empty; returns the marks and the pairs from, to of the edges that led
back onto the path, the last found first. -/
def walk (g : Graph) (marks : Array Mark) (path : List Frame) (back : List (Nat × Nat)) :
    Array Mark × List (Nat × Nat) :=
  match path with
  | [] => (marks, back)
  | (i, []) :: path => walk g (finish marks i) path back
  | (i, child :: children) :: path =>
    if h : child < marks.size then
      match seen : marks[child] with
      | .unvisited =>
        walk g (marks.set child .onPath h) ((child, g.children child) :: (i, children) :: path) back
      | .onPath => walk g marks ((i, children) :: path) ((i, child) :: back)
      | .finished => walk g marks ((i, children) :: path) back
    else walk g marks ((i, children) :: path) back
termination_by (marks.count .unvisited, pending path)
decreasing_by
  · rcases Nat.lt_or_eq_of_le (count_finish_le marks i) with less | same
    · exact .left _ _ less
    · rw [same]; exact .right _ (by simp [pending])
  · have := count_set_add_one h seen (b := Mark.onPath) (by decide)
    exact .left _ _ (by omega)
  all_goals exact .right _ (by simp [pending])

def walkFrom (g : Graph) (state : Array Mark × List (Nat × Nat)) (start : Nat) :
    Array Mark × List (Nat × Nat) :=
  if h : start < state.1.size then
    if state.1[start] = .unvisited then
      walk g (state.1.set start .onPath h) [(start, g.children start)] state.2
    else state
  else state

/-- The pairs from, to of all edges that close a loop, in the order of discovery. -/
def backEdges (g : Graph) : List (Nat × Nat) :=
  let marks := Array.replicate g.nodes.size Mark.unvisited
  ((List.range g.nodes.size).foldl g.walkFrom (marks, [])).2.reverse

end Storyline.Graph
