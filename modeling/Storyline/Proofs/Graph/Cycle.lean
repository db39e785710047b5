import Mathlib.Data.Fintype.EquivFin
import Mathlib.Data.List.Chain
import Storyline.Proofs.Graph.Growth

/-!
Cycles of a graph, and an order of its nodes that shows where they close. Nothing here mentions the
search: a list of nodes is settled when the edges of each node lead further down the list or are
among given edges, and then every walk back to its beginning takes one of the given edges.
-/
namespace Storyline.Graph

/-- A walk back to its beginning: each node leads to the next and the last to the first. -/
def IsClosedWalk (g : Graph) : List Nat → Prop
  | [] => False
  | v :: rest => (v :: rest ++ [v]).IsChain g.LeadsTo

/-- A cycle passes through each of its nodes once. -/
def IsCycle (g : Graph) (c : List Nat) : Prop := g.IsClosedWalk c ∧ c.Nodup

def Closes (g : Graph) (u v : Nat) : Prop :=
  ∃ rest, g.IsCycle (v :: rest) ∧ (v :: rest).getLast? = some u

theorem Closes.leadsTo {g : Graph} {u v : Nat} (h : g.Closes u v) : g.LeadsTo u v := by
  obtain ⟨rest, ⟨closed, _⟩, last⟩ := h
  exact (List.isChain_append.1 closed).2.2 u last v rfl

section Walks

variable {α : Type} {r : α → α → Prop}

theorem transGen_of_isChain {a b : α} {l : List α} (h : (a :: l ++ [b]).IsChain r) :
    Relation.TransGen r a b := by
  induction l generalizing a with
  | nil => exact .single (List.isChain_pair.1 h)
  | cons c l ih =>
    have step : r a c := h.rel
    exact .head step (ih h.of_cons)

theorem exists_isChain_of_transGen {a b : α} (h : Relation.TransGen r a b) :
    ∃ l, (a :: l ++ [b]).IsChain r := by
  induction h using Relation.TransGen.head_induction_on with
  | single step => exact ⟨[], List.isChain_pair.2 step⟩
  | head step _ ih =>
    obtain ⟨l, chain⟩ := ih
    exact ⟨_ :: l, .cons_cons step chain⟩

theorem exists_rel_of_isChain {a b : α} {l : List α} (h : (a :: l ++ [b]).IsChain r) :
    ∀ x ∈ a :: l, ∃ y, r x y := by
  induction l generalizing a with
  | nil =>
    intro x hx
    exact List.mem_singleton.1 hx ▸ ⟨b, List.isChain_pair.1 h⟩
  | cons c l ih =>
    intro x hx
    rcases List.mem_cons.1 hx with rfl | hx
    · exact ⟨c, h.rel⟩
    · exact ih h.of_cons x hx

end Walks

theorem exists_isClosedWalk_iff (g : Graph) (v : Nat) :
    (∃ rest, g.IsClosedWalk (v :: rest)) ↔ Relation.TransGen g.LeadsTo v v :=
  ⟨fun ⟨_, chain⟩ => transGen_of_isChain chain, exists_isChain_of_transGen⟩

theorem Closes.return_target {g : Graph} {u v : Nat} (h : g.Closes u v) :
    Relation.TransGen g.LeadsTo v v := by
  obtain ⟨rest, ⟨closed, _⟩, _⟩ := h
  exact transGen_of_isChain closed

/-- The cycle leads from where the step goes to where it comes from. -/
theorem Closes.reaches {g : Graph} {u v : Nat} (h : g.Closes u v) :
    Relation.ReflTransGen g.LeadsTo v u := by
  obtain ⟨rest, ⟨closed, _⟩, last⟩ := h
  exact List.relationReflTransGen_of_exists_isChain_cons rest closed.left_of_append
    (List.getLast_of_getLast?_eq_some last)

theorem Closes.return_source {g : Graph} {u v : Nat} (h : g.Closes u v) :
    Relation.TransGen g.LeadsTo u u := .head' h.leadsTo h.reaches

theorem not_isClosedWalk_of_forward {g : Graph} (forward : ∀ u v, g.LeadsTo u v → u < v)
    (c : List Nat) : ¬ g.IsClosedWalk c := by
  intro closed
  cases c with
  | nil => exact closed
  | cons v rest =>
    have walk := (exists_isClosedWalk_iff g v).1 ⟨rest, closed⟩
    have later : Relation.TransGen (· < ·) v v := Relation.TransGen.mono forward v v walk
    rw [Relation.transGen_eq_self] at later
    exact Nat.lt_irrefl v later

theorem IsClosedWalk.lt_of_mem {g : Graph} {c : List Nat} (h : g.IsClosedWalk c) {v : Nat}
    (hv : v ∈ c) : v < g.nodes.size := by
  cases c with
  | nil => cases hv
  | cons first rest =>
    obtain ⟨w, leads⟩ := exists_rel_of_isChain h v hv
    exact lt_of_leadsTo leads

theorem wellFounded_leadsTo {g : Graph} (inside : ∀ u v, g.LeadsTo u v → v < g.nodes.size)
    (acyclic : ∀ v, ¬ Relation.TransGen g.LeadsTo v v) : WellFounded g.LeadsTo := by
  have walks : WellFounded fun i j : Fin g.nodes.size => Relation.TransGen g.LeadsTo i j := by
    have trans : IsTrans (Fin g.nodes.size) fun i j => Relation.TransGen g.LeadsTo i j :=
      ⟨fun _ _ _ => Relation.TransGen.trans⟩
    have irrefl : Std.Irrefl fun i j : Fin g.nodes.size => Relation.TransGen g.LeadsTo i j :=
      ⟨fun i => acyclic i⟩
    exact Finite.wellFounded_of_trans_of_irrefl _
  have there : ∀ i : Fin g.nodes.size, Acc g.LeadsTo i := by
    intro i
    induction walks.apply i with
    | intro i _ ih =>
      constructor
      intro u leads
      exact ih ⟨u, lt_of_leadsTo leads⟩ (.single leads)
  constructor
  intro v
  by_cases small : v < g.nodes.size
  · exact there ⟨v, small⟩
  · constructor
    intro u leads
    exact absurd (inside u v leads) small

def Remains (g : Graph) (back : List (Nat × Nat)) (u v : Nat) : Prop :=
  g.LeadsTo u v ∧ (u, v) ∉ back

/-- Each edge of a node in the list leads further down the list or is among the given edges. -/
inductive Settled (g : Graph) (back : List (Nat × Nat)) : List Nat → Prop where
  | nil : Settled g back []
  | cons {i : Nat} {order : List Nat} : i ∉ order →
      (∀ v, g.LeadsTo i v → (i, v) ∈ back ∨ v ∈ order) → Settled g back order →
      Settled g back (i :: order)

namespace Settled

variable {g : Graph} {back : List (Nat × Nat)} {order : List Nat}

theorem mono {more : List (Nat × Nat)} (h : Settled g back order)
    (sub : ∀ e ∈ back, e ∈ more) : Settled g more order := by
  induction h with
  | nil => exact .nil
  | cons fresh edges _ ih =>
    refine .cons fresh ?_ ih
    intro v leads
    exact (edges v leads).imp (sub _) id

theorem mem_of_remains (h : Settled g back order) {u v : Nat} (hu : u ∈ order)
    (remains : g.Remains back u v) : v ∈ order := by
  induction h with
  | nil => cases hu
  | cons _ edges _ ih =>
    apply List.mem_cons_of_mem
    rcases List.mem_cons.1 hu with rfl | hu
    · exact (edges v remains.1).resolve_left remains.2
    · exact ih hu

theorem mem_of_transGen (h : Settled g back order) {u v : Nat} (hu : u ∈ order)
    (walk : Relation.TransGen (g.Remains back) u v) : v ∈ order := by
  induction walk with
  | single step => exact h.mem_of_remains hu step
  | tail _ step ih => exact h.mem_of_remains ih step

theorem no_return (h : Settled g back order) {v : Nat} (hv : v ∈ order) :
    ¬ Relation.TransGen (g.Remains back) v v := by
  induction h with
  | nil => cases hv
  | cons fresh edges settled ih =>
    intro walk
    rcases List.mem_cons.1 hv with rfl | hv
    · obtain ⟨w, step, rest⟩ := Relation.TransGen.head'_iff.1 walk
      have hw := (edges w step.1).resolve_left step.2
      rcases Relation.reflTransGen_iff_eq_or_transGen.1 rest with same | rest
      · exact fresh (same ▸ hw)
      · exact fresh (settled.mem_of_transGen hw rest)
    · exact ih hv walk

/-- A closed walk that begins in the list takes one of the given edges. -/
theorem exists_mem_of_isClosedWalk (h : Settled g back order) {c : List Nat}
    (closed : g.IsClosedWalk c) (within : ∀ v ∈ c, v ∈ order) :
    ∃ u v, (u, v) ∈ back ∧ u ∈ c ∧ v ∈ c := by
  cases c with
  | nil => cases closed
  | cons v rest =>
    by_contra none
    have passed : ∀ a ∈ v :: rest ++ [v], a ∈ v :: rest := by
      intro a ha
      rcases List.mem_append.1 ha with ha | ha
      · exact ha
      · exact List.mem_singleton.1 ha ▸ List.mem_cons_self
    have remains : (v :: rest ++ [v]).IsChain (g.Remains back) := by
      refine List.IsChain.imp_of_mem_imp ?_ closed
      intro a b ha hb leads
      exact ⟨leads, fun mem => none ⟨a, b, mem, passed a ha, passed b hb⟩⟩
    exact h.no_return (within v List.mem_cons_self) (transGen_of_isChain remains)

end Settled

end Storyline.Graph
