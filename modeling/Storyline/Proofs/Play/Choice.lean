import Storyline.Proofs.Play.Lifecycle

/-!
Which quest is picked, told without positions. The choice is made among the quests that can be
started, in document order; what else is on the list makes no difference, nor does it to the draws.
A drawn position is always one of the list that is drawn from.
-/
namespace Storyline

namespace Random.Source

/-- A carry keeps the high word below n: the two words drawn make a number below the square of
their count. -/
theorem high_carry_lt {w v n : Nat} (first : w < wordCount) (second : v < wordCount)
    (carries : wordCount ≤ w * n % wordCount + v * n / wordCount) :
    w * n / wordCount + 1 < n := by
  have most : w * n ≤ (wordCount - 1) * n := Nat.mul_le_mul_right n (by omega)
  have least : v * n ≤ (wordCount - 1) * n := Nat.mul_le_mul_right n (by omega)
  unfold wordCount at *
  omega

theorem below_lt {n : Nat} (some_left : 0 < n) (s : Source) : (s.below n).1 < n := by
  have drawn (w : UInt32) : w.toNat < wordCount := w.toNat_lt
  have single (w : UInt32) : w.toNat * n / wordCount < n :=
    Nat.div_lt_of_lt_mul (Nat.mul_lt_mul_of_pos_right (drawn w) some_left)
  unfold below
  dsimp only [widen]
  split
  · by_cases carries : wordCount ≤ s.draw32.1.toNat * n % wordCount +
        s.draw32.2.draw32.1.toNat * n / wordCount
    · simpa [carries] using high_carry_lt (drawn _) (drawn _) carries
    · simpa [carries] using single _
  · exact single _

end Random.Source

def PlayStyle.choose (style : PlayStyle) (candidates : List Quest) (s : Random.Source) :
    Option Quest × Random.Source :=
  match candidates with
  | [] => (none, s)
  | first :: _ =>
    match style.preferred? with
    | some t => (some ((candidates.find? (·.type = t)).getD first), s)
    | none =>
      let (k, s) := s.below candidates.length
      (some (candidates.getD k first), s)

section Positions

variable {quests candidates : List Quest} {positions : List Nat}

theorem find?_hasType (located : positions.map (quests[·]?) = candidates.map some)
    (t : QuestType) : (positions.find? (PlayStyle.hasType quests t)).map (quests[·]?) =
      (candidates.find? (·.type = t)).map some := by
  have found := congrArg (List.find? fun q => q.any (·.type = t)) located
  rw [List.find?_map, List.find?_map] at found
  exact found

theorem getElem?_getD {i : Nat} {first : Quest} {chosen : Option Nat} {quest : Option Quest}
    (here : quests[i]? = some first) (same : chosen.map (quests[·]?) = quest.map some) :
    quests[chosen.getD i]? = some (quest.getD first) := by
  cases chosen with
  | none =>
    cases quest with
    | none => exact here
    | some q => cases same
  | some j =>
    cases quest with
    | none => cases same
    | some q => exact Option.some.inj same

theorem select_eq_choose (located : positions.map (quests[·]?) = candidates.map some)
    (style : PlayStyle) (s : Random.Source) :
    ((style.select quests positions s).1.bind (quests[·]?),
      (style.select quests positions s).2) = style.choose candidates s := by
  cases positions with
  | nil =>
    cases candidates with
    | nil => rfl
    | cons first rest => cases located
  | cons i positions =>
    cases candidates with
    | nil => cases located
    | cons first rest =>
      have here : quests[i]? = some first := (List.cons.inj located).1
      have count : (i :: positions).length = (first :: rest).length := by
        simpa using congrArg List.length located
      unfold PlayStyle.select PlayStyle.choose
      cases style.preferred? with
      | some t => exact Prod.ext (getElem?_getD here (find?_hasType located t)) rfl
      | none =>
        dsimp only
        rw [count]
        generalize s.below (first :: rest).length = draw
        have drawn : (i :: positions)[draw.1]?.map (quests[·]?) =
            (first :: rest)[draw.1]?.map some := by
          rw [← List.getElem?_map, ← List.getElem?_map, located]
        rw [List.getD_eq_getElem?_getD, List.getD_eq_getElem?_getD]
        exact Prod.ext (getElem?_getD here drawn) rfl

end Positions

namespace Run

theorem map_available (s : Scenario) (r : Run) :
    (available s r).map (s.quests[·]?) = (s.quests.filter r.canStart).map some := by
  have placed : ∀ e ∈ s.quests.zipIdx.filter fun e => r.canStart e.1,
      s.quests[e.2]? = some e.1 := by
    intro e he
    exact List.mem_zipIdx_iff_getElem?.1 (List.mem_filter.1 he).1
  have quests : (s.quests.zipIdx.filter fun e => r.canStart e.1).map (·.1) =
      s.quests.filter r.canStart := by
    have within : (s.quests.zipIdx.map (·.1)).filter r.canStart =
        (s.quests.zipIdx.filter fun e => r.canStart e.1).map (·.1) := List.filter_map
    rw [← within, List.zipIdx_map_fst]
  calc (available s r).map (s.quests[·]?)
      = (s.quests.zipIdx.filter fun e => r.canStart e.1).map fun e => s.quests[e.2]? := by
        rw [available, List.map_map]
        rfl
    _ = (s.quests.zipIdx.filter fun e => r.canStart e.1).map fun e => some e.1 :=
        List.map_congr_left placed
    _ = (s.quests.filter r.canStart).map some := by
        rw [← quests, List.map_map]
        rfl

theorem pick_eq_choose (s : Scenario) (r : Run) :
    pick s r = s.style.choose (s.quests.filter r.canStart) r.source :=
  select_eq_choose (map_available s r) s.style r.source

end Run

end Storyline
